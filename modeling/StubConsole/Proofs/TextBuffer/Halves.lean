import StubConsole.Proofs.TextBuffer.Lines

/-!
# Halves — a text cut in two at the cursor

A buffer stores its content as one text and its cursor as a number of bytes.  For the user it is two
texts, one before the cursor and one behind it, and a key takes characters off their ends, puts some
there, or moves some across.

* `Halves`, `Halves.Press` — the two texts and what each key does to them;
* `Halves.Typed` — what a typed character stands for;
* `TextBuffer.Shows` — a buffer stands for two texts;
* `TextBuffer.pressKey?_of_press`, `TextBuffer.exists_press` — a key that does something to the
  texts does it to the buffer, and any other key does nothing.
-/

namespace StubConsole

open Text

structure Halves where
  before : List Char
  behind : List Char

/-! ## Words -/

/-- The last word of a text and the spaces behind it. -/
structure WordCut (kept word spaces : List Char) : Prop where
  keptEnds : ∀ c ∈ kept.getLast?, c = ' ' ∨ c = '\n'
  inWord : ∀ c ∈ word, c ≠ ' ' ∧ c ≠ '\n'
  inSpaces : ∀ c ∈ spaces, c = ' '
  /-- All spaces at the end are among those behind the word, also if the word is empty. -/
  trimmed : ∀ c ∈ (kept ++ word).getLast?, c ≠ ' '

namespace Halves

/-! ## Keys -/

/-- Curly quotes are typed as straight ones, and on a single line the two characters that end lines
as spaces. -/
inductive Typed (multiline : Bool) : Char → Char → Prop where
  | doubleQuote {c : Char} (hc : c = '\u201C' ∨ c = '\u201D') : Typed multiline c '\x22'
  | singleQuote {c : Char} (hc : c = '\u2018' ∨ c = '\u2019') : Typed multiline c '\x27'
  | space {c : Char} (hc : c = '\r' ∨ c = '\n') (hline : multiline = false) : Typed multiline c ' '
  | same {c : Char} (hquote : c ∉ ['\u201C', '\u201D', '\u2018', '\u2019'])
      (hend : multiline = false → c ≠ '\r' ∧ c ≠ '\n') : Typed multiline c c

/-- The same column of the line above, or its end. -/
inductive Up : Halves → Halves → Prop where
  | move {above line left behind : List Char} (habove : EndsLine above) (hline : OneLine line)
      (hleft : OneLine left) :
      Up ⟨above ++ line ++ '\n' :: left, behind⟩
        ⟨above ++ line.take left.length, line.drop left.length ++ '\n' :: (left ++ behind)⟩

/-- The same column of the line below, or its end. -/
inductive Down : Halves → Halves → Prop where
  | move {above left right line below : List Char} (habove : EndsLine above)
      (hleft : OneLine left) (hright : OneLine right) (hline : OneLine line)
      (hbelow : BeginsLine below) :
      Down ⟨above ++ left, right ++ '\n' :: (line ++ below)⟩
        ⟨above ++ left ++ right ++ '\n' :: line.take left.length, line.drop left.length ++ below⟩

/-- What a key does to the texts around the cursor.  Keys that do nothing have no case here. -/
inductive Press (multiline : Bool) : Key → Halves → Halves → Prop where
  | typed {c d : Char} (before behind : List Char) (htyped : Typed multiline c d) :
      Press multiline ⟨.char c, false⟩ ⟨before, behind⟩ ⟨before ++ [d], behind⟩
  | enter (ctrl : Bool) (before behind : List Char) (hmulti : multiline = true) :
      Press multiline ⟨.enter, ctrl⟩ ⟨before, behind⟩ ⟨before ++ ['\n'], behind⟩
  | tab (ctrl : Bool) (before behind : List Char) (hmulti : multiline = true) :
      Press multiline ⟨.tab, ctrl⟩ ⟨before, behind⟩ ⟨before ++ [' ', ' '], behind⟩
  | backspace (ctrl : Bool) (c : Char) (before behind : List Char) :
      Press multiline ⟨.backspace, ctrl⟩ ⟨before ++ [c], behind⟩ ⟨before, behind⟩
  | delete (ctrl : Bool) (c : Char) (before behind : List Char) :
      Press multiline ⟨.delete, ctrl⟩ ⟨before, c :: behind⟩ ⟨before, behind⟩
  | left (ctrl : Bool) (c : Char) (before behind : List Char) :
      Press multiline ⟨.left, ctrl⟩ ⟨before ++ [c], behind⟩ ⟨before, c :: behind⟩
  | right (ctrl : Bool) (c : Char) (before behind : List Char) :
      Press multiline ⟨.right, ctrl⟩ ⟨before, c :: behind⟩ ⟨before ++ [c], behind⟩
  | lineStart {key : Key} (hkey : key.code = .home ∨ key = ⟨.char 'a', true⟩)
      {above left : List Char} (behind : List Char) (habove : EndsLine above)
      (hleft : OneLine left) :
      Press multiline key ⟨above ++ left, behind⟩ ⟨above, left ++ behind⟩
  | lineEnd {key : Key} (hkey : key.code = .atEnd ∨ key = ⟨.char 'e', true⟩)
      (before : List Char) {right below : List Char} (hright : OneLine right)
      (hbelow : BeginsLine below) :
      Press multiline key ⟨before, right ++ below⟩ ⟨before ++ right, below⟩
  | up (ctrl : Bool) {h h' : Halves} (hmulti : multiline = true) (hup : Up h h') :
      Press multiline ⟨.up, ctrl⟩ h h'
  | down (ctrl : Bool) {h h' : Halves} (hmulti : multiline = true) (hdown : Down h h') :
      Press multiline ⟨.down, ctrl⟩ h h'
  | word {kept word spaces : List Char} (behind : List Char) (hcut : WordCut kept word spaces)
      (hsome : word ++ spaces ≠ []) :
      Press multiline ⟨.char 'w', true⟩ ⟨kept ++ (word ++ spaces), behind⟩ ⟨kept, behind⟩
  | clear (before behind : List Char) :
      Press multiline ⟨.char 'l', true⟩ ⟨before, behind⟩ ⟨[], []⟩

end Halves

namespace TextBuffer

/-! ## Typed characters -/

theorem straighten_of_notMem {c : Char} (hc : c ∉ ['\u201C', '\u201D', '\u2018', '\u2019']) :
    straighten c = c := by
  have hne {d : Char} (hd : d ∈ ['\u201C', '\u201D', '\u2018', '\u2019']) : c.toNat ≠ d.toNat :=
    fun hsame => hc (Char.toNat_inj.1 hsame ▸ hd)
  have hdouble : ¬ (c.toNat = 0x201C || c.toNat = 0x201D) = true := by
    simpa using ⟨hne (d := '\u201C') (by simp), hne (d := '\u201D') (by simp)⟩
  have hsingle : ¬ (c.toNat = 0x2018 || c.toNat = 0x2019) = true := by
    simpa using ⟨hne (d := '\u2018') (by simp), hne (d := '\u2019') (by simp)⟩
  rw [straighten, if_neg hdouble, if_neg hsingle]

theorem normalize_of_typed {multiline : Bool} {c d : Char} (h : Halves.Typed multiline c d) :
    normalize multiline c = d := by
  cases h with
  | doubleQuote hc => rcases hc with rfl | rfl <;> cases multiline <;> rfl
  | singleQuote hc => rcases hc with rfl | rfl <;> cases multiline <;> rfl
  | space hc hline => rcases hc with rfl | rfl <;> subst hline <;> rfl
  | same hquote hend =>
      cases multiline with
      | true => exact straighten_of_notMem hquote
      | false =>
          rcases hend rfl with ⟨hreturn, hfeed⟩
          simp [normalize, straighten_of_notMem hquote, hreturn, hfeed]

theorem exists_typed (multiline : Bool) (c : Char) : ∃ d, Halves.Typed multiline c d := by
  by_cases hquote : c ∈ ['\u201C', '\u201D', '\u2018', '\u2019']
  · simp only [List.mem_cons, List.not_mem_nil, or_false] at hquote
    rcases hquote with hc | hc | hc | hc
    · exact ⟨_, .doubleQuote (.inl hc)⟩
    · exact ⟨_, .doubleQuote (.inr hc)⟩
    · exact ⟨_, .singleQuote (.inl hc)⟩
    · exact ⟨_, .singleQuote (.inr hc)⟩
  · by_cases hend : multiline = false ∧ (c = '\r' ∨ c = '\n')
    · exact ⟨_, .space hend.2 hend.1⟩
    · exact ⟨_, .same hquote fun hline => not_or.1 fun hc => hend ⟨hline, hc⟩⟩

/-- A character is typed as exactly one character. -/
theorem typed_iff {multiline : Bool} {c d : Char} :
    Halves.Typed multiline c d ↔ normalize multiline c = d := by
  constructor
  · exact normalize_of_typed
  · rintro rfl
    rcases exists_typed multiline c with ⟨d, htyped⟩
    exact normalize_of_typed htyped ▸ htyped

/-! ## Cuts -/

theorem dropWord_cut {kept word spaces : List Char} (h : WordCut kept word spaces) :
    dropWord (kept ++ (word ++ spaces)) = kept := by
  -- spaces first, then the word: the two runs of `dropWhile` meet at the end of the word
  have hspaces : (kept ++ (word ++ spaces)).reverse.dropWhile (· = ' ')
      = (kept ++ word).reverse := by
    rw [← List.append_assoc, ← List.reverse_inj, List.reverse_reverse]
    exact dropWhile_reverse_cut (fun c hc => by simpa using h.trimmed c hc)
      (fun c hc => by simpa using h.inSpaces c hc)
  unfold dropWord
  rw [hspaces]
  refine dropWhile_reverse_cut (fun c hc => ?_) (fun c hc => by simpa using h.inWord c hc)
  rcases h.keptEnds c hc with rfl | rfl <;> rfl

theorem exists_wordCut (s : List Char) :
    ∃ kept word spaces, s = kept ++ (word ++ spaces) ∧ WordCut kept word spaces := by
  rcases exists_cut_reverse (fun c => c = ' ') s with ⟨trimmed, spaces, rfl, htrimmed, hspaces⟩
  rcases exists_cut_reverse (fun c => c ≠ ' ' && c ≠ '\n') trimmed with
    ⟨kept, word, rfl, hkept, hword⟩
  refine ⟨kept, word, spaces, List.append_assoc _ _ _, ?_, ?_, ?_, ?_⟩
  · intro c hc
    have hsep := hkept c hc
    by_cases hspace : c = ' '
    · exact .inl hspace
    · exact .inr (by simpa [hspace] using hsep)
  · intro c hc
    simpa using hword c hc
  · intro c hc
    simpa using hspaces c hc
  · intro c hc
    simpa using htrimmed c hc

/-! ## Buffers and halves -/

/-- The buffer holds the two texts, with its cursor between them. -/
structure Shows (b : TextBuffer) (h : Halves) : Prop where
  content : b.content.toList = h.before ++ h.behind
  cursor : b.cursor = byteLength h.before

theorem splitAtByte_byteLength (front rest : List Char) :
    splitAtByte (byteLength front) (front ++ rest) = (front, rest) := by
  induction front with
  | nil =>
      cases rest with
      | nil => rfl
      | cons c rest =>
          have hpos := Char.utf8Size_pos c
          simp only [byteLength_nil, List.nil_append, splitAtByte]
          rw [if_neg (by omega)]
  | cons c front ih => simp [splitAtByte, ih]

namespace Shows

variable {b : TextBuffer} {h : Halves}

theorem parts (hb : b.Shows h) : b.parts = (h.before, h.behind) := by
  rw [TextBuffer.parts, hb.content, hb.cursor, splitAtByte_byteLength]

theorem before (hb : b.Shows h) : b.before = h.before := congrArg Prod.fst hb.parts

theorem behind (hb : b.Shows h) : b.behind = h.behind := congrArg Prod.snd hb.parts

/-- A buffer stands for one pair of texts. -/
theorem unique {h' : Halves} (hb : b.Shows h) (hb' : b.Shows h') : h = h' := by
  have hparts := hb.parts.symm.trans hb'.parts
  cases h
  cases h'
  simpa using hparts

theorem withParts (b : TextBuffer) (front rest : List Char) :
    (b.withParts front rest).Shows ⟨front, rest⟩ :=
  ⟨String.toList_ofList, rfl⟩

theorem setContent (b : TextBuffer) (text : String) : (b.setContent text).Shows ⟨text.toList, []⟩ :=
  ⟨(List.append_nil _).symm, rfl⟩

theorem ofContent (text : String) (multiline : Bool) :
    (TextBuffer.ofContent text multiline).Shows ⟨text.toList, []⟩ :=
  ⟨(List.append_nil _).symm, rfl⟩

/-- The place of a cursor, from the lines above it and the part of its line before it. -/
theorem place_eq (hb : b.Shows h) {above left : List Char} (habove : EndsLine above)
    (hleft : OneLine left) (hbefore : h.before = above ++ left) :
    b.place = (above.count '\n', left.length) := by
  rw [place, hb.before, hbefore, lastLine_cut habove hleft, List.count_append, hleft.count,
    Nat.add_zero]

theorem moveBehind (hb : b.Shows h) {front rest : List Char}
    (hsame : h.before ++ h.behind = front ++ rest) : (b.moveBehind front).Shows ⟨front, rest⟩ :=
  ⟨hb.content.trans hsame, rfl⟩

end Shows

/-! ## Keys on buffers -/

section Keys

variable {b : TextBuffer} {h h' : Halves}

theorem take_append_drop_append (n : Nat) (front rest : List Char) :
    front.take n ++ (front.drop n ++ rest) = front ++ rest := by
  rw [← List.append_assoc, List.take_append_drop]

theorem moveUp?_of_up (hb : b.Shows h) (hup : h.Up h') :
    ∃ front, b.moveUp? = some (b.moveBehind front) ∧ (b.moveBehind front).Shows h' := by
  cases hup with
  | @move above line left behind habove hline hleft =>
      have hbefore : b.before = (above ++ line ++ ['\n']) ++ left := by simp [hb.before]
      -- the line above is found by the same cut, once its line feed is taken off
      have hends := endsLine_concat (above ++ line)
      refine ⟨above ++ line.take left.length, ?_, hb.moveBehind (by simp [take_append_drop_append])⟩
      simp only [moveUp?, hbefore, linesAbove_cut hends hleft, lastLine_cut hends hleft,
        List.dropLast_concat, linesAbove_cut habove hline, lastLine_cut habove hline]
      simp

theorem moveDown?_of_down (hb : b.Shows h) (hdown : h.Down h') :
    ∃ front, b.moveDown? = some (b.moveBehind front) ∧ (b.moveBehind front).Shows h' := by
  cases hdown with
  | @move above left right line below habove hleft hright hline hbelow =>
      have hfeed := beginsLine_cons (line ++ below)
      refine ⟨above ++ left ++ right ++ '\n' :: line.take left.length, ?_,
        hb.moveBehind (by simp [take_append_drop_append])⟩
      simp only [moveDown?, hb.before, hb.behind, linesBelow_cut hright hfeed,
        firstLine_cut hright hfeed, firstLine_cut hline hbelow, lastLine_cut habove hleft]
      simp

/-- A key that does something to the texts does it to the buffer. -/
theorem pressKey?_of_press {key : Key} (hb : b.Shows h) (hpress : h.Press b.multiline key h') :
    ∃ after, b.pressKey? key = some after ∧ after.Shows h' ∧ after.multiline = b.multiline := by
  cases hpress with
  | @typed c d before behind htyped =>
      refine ⟨_, rfl, ?_, rfl⟩
      have hnormal : normalize b.multiline c = d := typed_iff.1 htyped
      simpa [insertText, insert, hnormal, hb.before, hb.behind] using Shows.withParts b _ _
  | enter ctrl before behind hmulti =>
      have hchar : b.insertChar '\n' = b.insert ['\n'] := by simp [insertChar, hmulti]
      refine ⟨_, if_pos hmulti, ?_, by rw [hchar]; rfl⟩
      simpa [hchar, insert, hb.before, hb.behind] using Shows.withParts b _ _
  | tab ctrl before behind hmulti =>
      refine ⟨_, if_pos hmulti, ?_, rfl⟩
      have hspace : normalize b.multiline ' ' = ' ' := by simp [normalize, straighten]
      simpa [insertText, insert, hspace, hb.before, hb.behind] using Shows.withParts b _ _
  | backspace ctrl c before behind =>
      refine ⟨b.withParts before behind, ?_, Shows.withParts b _ _, rfl⟩
      simp [pressKey?, deleteBefore?, hb.before, hb.behind]
  | delete ctrl c before behind =>
      refine ⟨b.withParts before behind, ?_, Shows.withParts b _ _, rfl⟩
      simp [pressKey?, deleteBehind?, hb.before, hb.behind]
  | left ctrl c before behind =>
      refine ⟨b.moveBehind before, ?_, hb.moveBehind (by simp), rfl⟩
      simp [pressKey?, moveLeft?, hb.before]
  | right ctrl c before behind =>
      refine ⟨b.moveBehind (before ++ [c]), ?_, hb.moveBehind (by simp), rfl⟩
      simp [pressKey?, moveRight?, hb.before, hb.behind]
  | @lineStart key hkey above left behind habove hleft =>
      have hstart : b.moveToLineStart = b.moveBehind above := by
        rw [moveToLineStart, hb.before, linesAbove_cut habove hleft]
      refine ⟨b.moveToLineStart, ?_, hstart ▸ hb.moveBehind (by simp), rfl⟩
      rcases hkey with hkey | rfl
      · simp [pressKey?, hkey]
      · simp [pressKey?]
  | @lineEnd key hkey before right below hright hbelow =>
      have hend : b.moveToLineEnd = b.moveBehind (before ++ right) := by
        rw [moveToLineEnd, hb.before, hb.behind, firstLine_cut hright hbelow]
      refine ⟨b.moveToLineEnd, ?_, hend ▸ hb.moveBehind (by simp), rfl⟩
      rcases hkey with hkey | rfl
      · simp [pressKey?, hkey]
      · simp [pressKey?]
  | up ctrl hmulti hup =>
      rcases moveUp?_of_up hb hup with ⟨front, hmove, hshows⟩
      exact ⟨_, (if_pos hmulti).trans hmove, hshows, rfl⟩
  | down ctrl hmulti hdown =>
      rcases moveDown?_of_down hb hdown with ⟨front, hmove, hshows⟩
      exact ⟨_, (if_pos hmulti).trans hmove, hshows, rfl⟩
  | @word kept word spaces behind hcut hsome =>
      refine ⟨b.withParts kept behind, ?_, Shows.withParts b _ _, rfl⟩
      have hlength : kept.length ≠ (kept ++ (word ++ spaces)).length := by
        have hpos := List.length_pos_of_ne_nil hsome
        rw [List.length_append]
        omega
      simp [pressKey?, deleteWord?, hb.before, hb.behind, dropWord_cut hcut]
      simpa using hlength
  | clear before behind => exact ⟨b.clear, by simp [pressKey?], Shows.withParts b [] [], rfl⟩

theorem exists_up_or (h : Halves) :
    (∃ h', h.Up h') ∨ OneLine h.before := by
  rcases h with ⟨before, behind⟩
  rcases exists_lastLine before with ⟨above, left, rfl, habove, hleft⟩
  rcases habove.cases with rfl | ⟨top, line, rfl, htop, hline⟩
  · exact .inr hleft
  · rw [List.append_assoc (top ++ line), List.singleton_append]
    exact .inl ⟨_, .move htop hline hleft⟩

theorem exists_down_or (h : Halves) :
    (∃ h', h.Down h') ∨ OneLine h.behind := by
  rcases h with ⟨before, behind⟩
  rcases exists_lastLine before with ⟨above, left, rfl, habove, hleft⟩
  rcases exists_firstLine behind with ⟨right, rest, rfl, hright, hrest⟩
  rcases hrest.cases with rfl | ⟨line, below, rfl, hline, hbelow⟩
  · exact .inr (by simpa using hright)
  · exact .inl ⟨_, .move habove hleft hright hline hbelow⟩

theorem moveUp?_of_oneLine (hb : b.Shows h) (hline : OneLine h.before) : b.moveUp? = none := by
  have habove : linesAbove h.before = [] := linesAbove_cut endsLine_nil hline
  simp [moveUp?, hb.before, habove]

theorem moveDown?_of_oneLine (hb : b.Shows h) (hline : OneLine h.behind) :
    b.moveDown? = none := by
  have hbelow : linesBelow (h.behind ++ []) = [] := linesBelow_cut hline beginsLine_nil
  rw [List.append_nil] at hbelow
  simp [moveDown?, hb.behind, hbelow]

/-- A key that does something to the buffer does something to the texts. -/
theorem exists_press {key : Key} {after : TextBuffer} (hb : b.Shows h)
    (hafter : b.pressKey? key = some after) : ∃ h', h.Press b.multiline key h' := by
  rcases key with ⟨code, ctrl⟩
  rcases h with ⟨before, behind⟩
  cases code with
  | backspace =>
      rcases List.eq_nil_or_concat' before with rfl | ⟨front, c, rfl⟩
      · simp [pressKey?, deleteBefore?, hb.before] at hafter
      · exact ⟨_, .backspace ctrl c front behind⟩
  | delete =>
      cases behind with
      | nil => simp [pressKey?, deleteBehind?, hb.behind] at hafter
      | cons c rest => exact ⟨_, .delete ctrl c before rest⟩
  | left =>
      rcases List.eq_nil_or_concat' before with rfl | ⟨front, c, rfl⟩
      · simp [pressKey?, moveLeft?, hb.before] at hafter
      · exact ⟨_, .left ctrl c front behind⟩
  | right =>
      cases behind with
      | nil => simp [pressKey?, moveRight?, hb.behind] at hafter
      | cons c rest => exact ⟨_, .right ctrl c before rest⟩
  | up =>
      simp only [pressKey?, Option.ite_none_right_eq_some] at hafter
      rcases exists_up_or ⟨before, behind⟩ with ⟨h', hup⟩ | hline
      · exact ⟨h', .up ctrl hafter.1 hup⟩
      · simp [moveUp?_of_oneLine hb hline] at hafter
  | down =>
      simp only [pressKey?, Option.ite_none_right_eq_some] at hafter
      rcases exists_down_or ⟨before, behind⟩ with ⟨h', hdown⟩ | hline
      · exact ⟨h', .down ctrl hafter.1 hdown⟩
      · simp [moveDown?_of_oneLine hb hline] at hafter
  | home =>
      rcases exists_lastLine before with ⟨above, left, rfl, habove, hleft⟩
      exact ⟨_, .lineStart (.inl rfl) behind habove hleft⟩
  | atEnd =>
      rcases exists_firstLine behind with ⟨right, below, rfl, hright, hbelow⟩
      exact ⟨_, .lineEnd (.inl rfl) before hright hbelow⟩
  | enter =>
      simp only [pressKey?, Option.ite_none_right_eq_some] at hafter
      exact ⟨_, .enter ctrl before behind hafter.1⟩
  | tab =>
      simp only [pressKey?, Option.ite_none_right_eq_some] at hafter
      exact ⟨_, .tab ctrl before behind hafter.1⟩
  | char c =>
      cases ctrl with
      | false => exact ⟨_, .typed before behind (typed_iff.2 rfl)⟩
      | true =>
          simp only [pressKey?] at hafter
          split at hafter
          next hctrl => cases hctrl
          split at hafter
          next hc =>
            subst hc
            rcases exists_lastLine before with ⟨above, left, rfl, habove, hleft⟩
            exact ⟨_, .lineStart (.inr rfl) behind habove hleft⟩
          split at hafter
          next hc =>
            subst hc
            rcases exists_firstLine behind with ⟨right, below, rfl, hright, hbelow⟩
            exact ⟨_, .lineEnd (.inr rfl) before hright hbelow⟩
          split at hafter
          next hc =>
            subst hc
            rcases exists_wordCut before with ⟨kept, word, spaces, rfl, hcut⟩
            refine ⟨_, .word behind hcut ?_⟩
            -- without a word and spaces the text would stay as it is
            intro hnone
            have hkept := dropWord_cut hcut
            rw [deleteWord?, hb.before, hkept, hnone, List.append_nil] at hafter
            simp at hafter
          split at hafter
          next hc =>
            subst hc
            exact ⟨_, .clear before behind⟩
          next => cases hafter
  | _ => cases hafter

end Keys

end TextBuffer

end StubConsole
