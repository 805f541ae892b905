import StubConsole.Proofs.TextBuffer.Halves

/-!
# Offsets — keys by byte offsets

A buffer can be edited without taking its content apart: offsets are found by searching for line
feeds and blanks, and the content is sliced, filled and emptied between them.  An offset inside a
character, or beyond the end, is no place to slice at, and everything that would need it fails.

* `Text.cutAtByte?` — a slice, and when there is none;
* `TextBuffer.ByOffset` — the operations on a buffer by offsets, up to `ByOffset.press?`;
* `Shows.press?_eq` — with the cursor between two characters nothing fails, and keys do the same.
-/

namespace StubConsole

open Text

namespace Text

/-! ## Slices -/

/-- The parts of a text before byte `n` and from there on; none unless byte `n` is at the end of the
text or the first one of a character. -/
def cutAtByte? : Nat → List Char → Option (List Char × List Char)
  | n, [] => if n = 0 then some ([], []) else none
  | n, c :: rest =>
      if n = 0 then some ([], c :: rest)
      else if c.utf8Size ≤ n then
        (cutAtByte? (n - c.utf8Size) rest).map fun cut => (c :: cut.1, cut.2)
      else none

/-- The byte that the first such character starts at. -/
def findByte? (p : Char → Bool) : List Char → Option Nat
  | [] => none
  | c :: rest => if p c then some 0 else (findByte? p rest).map (c.utf8Size + ·)

/-- The byte that the last such character starts at. -/
def rfindByte? (p : Char → Bool) : List Char → Option Nat
  | [] => none
  | c :: rest =>
      match rfindByte? p rest with
      | some i => some (c.utf8Size + i)
      | none => if p c then some 0 else none

/-- The bytes that characters start at. -/
def charStarts : List Char → List Nat
  | [] => []
  | c :: rest => 0 :: (charStarts rest).map (c.utf8Size + ·)

/-- The last place to slice at that is not beyond byte `n`. -/
def boundaryUpTo (s : List Char) : Nat → Nat
  | 0 => 0
  | n + 1 => if (cutAtByte? (n + 1) s).isSome then n + 1 else boundaryUpTo s n

theorem cutAtByte?_byteLength (front rest : List Char) :
    cutAtByte? (byteLength front) (front ++ rest) = some (front, rest) := by
  induction front with
  | nil => cases rest <;> rfl
  | cons c front ih =>
      have hpos := Char.utf8Size_pos c
      have hne : c.utf8Size + byteLength front ≠ 0 := by omega
      simp only [byteLength_cons, List.cons_append, cutAtByte?, if_neg hne, Nat.le_add_right,
        if_true, Nat.add_sub_cancel_left, ih, Option.map_some]

theorem boundaryUpTo_byteLength (front rest : List Char) :
    boundaryUpTo (front ++ rest) (byteLength front) = byteLength front := by
  have hcut := cutAtByte?_byteLength front rest
  cases h : byteLength front with
  | zero => rfl
  | succ n =>
      rw [h] at hcut
      simp [boundaryUpTo, hcut]

/-! ## Searches -/

section Searches

variable {p : Char → Bool} {front rest : List Char}

theorem rfindByte?_eq_none (h : ∀ c ∈ rest, p c = false) : rfindByte? p rest = none := by
  induction rest with
  | nil => rfl
  | cons c rest ih =>
      simp [rfindByte?, ih fun d hd => h d (List.mem_cons_of_mem c hd), h c List.mem_cons_self]

theorem rfindByte?_cut (front : List Char) {c : Char} (hc : p c = true)
    (hrest : ∀ c ∈ rest, p c = false) :
    rfindByte? p (front ++ c :: rest) = some (byteLength front) := by
  induction front with
  | nil => simp [rfindByte?, rfindByte?_eq_none hrest, hc]
  | cons d front ih => simp [rfindByte?, ih]

theorem findByte?_eq_none (h : ∀ c ∈ front, p c = false) : findByte? p front = none := by
  induction front with
  | nil => rfl
  | cons c front ih =>
      simp [findByte?, ih fun d hd => h d (List.mem_cons_of_mem c hd), h c List.mem_cons_self]

theorem findByte?_cut (hfront : ∀ c ∈ front, p c = false) {c : Char} (hc : p c = true) :
    findByte? p (front ++ c :: rest) = some (byteLength front) := by
  induction front with
  | nil => simp [findByte?, hc]
  | cons d front ih =>
      simp [findByte?, hfront d List.mem_cons_self,
        ih fun e he => hfront e (List.mem_cons_of_mem d he)]

theorem getLast?_charStarts_concat (front : List Char) (c : Char) :
    (charStarts (front ++ [c])).getLast? = some (byteLength front) := by
  induction front with
  | nil => rfl
  | cons d front ih =>
      have hne : charStarts (front ++ [c]) ≠ [] := fun h => by simp [h] at ih
      rw [List.cons_append, charStarts, List.getLast?_cons_of_ne_nil (by simpa using hne),
        List.getLast?_map, ih]
      rfl

/-- A character is found under its number, at the byte behind those before it. -/
theorem getElem?_charStarts (s : List Char) (n : Nat) :
    (charStarts s)[n]? = if n < s.length then some (byteLength (s.take n)) else none := by
  induction s generalizing n with
  | nil => simp [charStarts]
  | cons c s ih =>
      cases n with
      | zero => simp [charStarts]
      | succ n =>
          simp only [charStarts, List.getElem?_cons_succ, List.getElem?_map, ih, List.length_cons,
            Nat.add_lt_add_iff_right]
          split <;> simp

end Searches

end Text

namespace TextBuffer

namespace ByOffset

/-! ## Places -/

def chars (b : TextBuffer) : List Char := b.content.toList

/-- The byte behind the last such character, which is one of a single byte. -/
def behindLast (p : Char → Bool) (s : List Char) : Nat :=
  match rfindByte? p s with
  | some i => i + 1
  | none => 0

def lineStart? (b : TextBuffer) (pos : Nat) : Option Nat := do
  let (front, _) ← cutAtByte? pos (chars b)
  return behindLast isLineFeed front

def lineEnd? (b : TextBuffer) (pos : Nat) : Option Nat := do
  let (_, rest) ← cutAtByte? pos (chars b)
  return match findByte? isLineFeed rest with
    | some i => pos + i
    | none => byteLength (chars b)

/-- Line and column of the cursor. -/
def place? (b : TextBuffer) : Option (Nat × Nat) := do
  let (front, _) ← cutAtByte? b.cursor (chars b)
  let (_, line) ← cutAtByte? (← lineStart? b b.cursor) front
  return (front.count '\n', line.length)

/-- The byte of a column in the line that starts at a byte, or of its end. -/
def offsetInLine? (b : TextBuffer) (start column : Nat) : Option Nat := do
  let stop ← lineEnd? b start
  let (front, _) ← cutAtByte? stop (chars b)
  let (_, line) ← cutAtByte? start front
  return match (charStarts line)[column]? with
    | some i => start + i
    | none => stop

/-- The cursor, or the next place before it where the content can be changed. -/
def clamped (b : TextBuffer) : Nat :=
  boundaryUpTo (chars b) (min b.cursor (byteLength (chars b)))

/-! ## Operations -/

def edited (b : TextBuffer) (content : List Char) (cursor : Nat) : TextBuffer :=
  { b with content := String.ofList content, cursor, dirty := true }

def insert? (b : TextBuffer) (s : List Char) : Option TextBuffer := do
  let (front, rest) ← cutAtByte? (clamped b) (chars b)
  return edited b (front ++ s ++ rest) (clamped b + byteLength s)

/-- The content without the character that starts at a byte. -/
def remove? (b : TextBuffer) (pos : Nat) : Option (List Char) := do
  match ← cutAtByte? pos (chars b) with
  | (_, []) => none
  | (front, _ :: rest) => some (front ++ rest)

def deleteBefore? (b : TextBuffer) : Option (TextBuffer × Bool) := do
  let (front, _) ← cutAtByte? b.cursor (chars b)
  match (charStarts front).getLast? with
  | none => return (b, false)
  | some i => return (edited b (← remove? b i) i, true)

def deleteBehind? (b : TextBuffer) : Option (TextBuffer × Bool) :=
  if byteLength (chars b) ≤ b.cursor then some (b, false)
  else do return (edited b (← remove? b (clamped b)) b.cursor, true)

def deleteWord? (b : TextBuffer) : Option (TextBuffer × Bool) := do
  let (front, rest) ← cutAtByte? b.cursor (chars b)
  let trimmed := (front.reverse.dropWhile (· = ' ')).reverse
  let start := behindLast (fun c => c = ' ' || c = '\n') trimmed
  if start = b.cursor then return (b, false)
  else do
    let (kept, _) ← cutAtByte? start front
    return (edited b (kept ++ rest) start, true)

def moveLeft? (b : TextBuffer) : Option (TextBuffer × Bool) := do
  let (front, _) ← cutAtByte? b.cursor (chars b)
  match (charStarts front).getLast? with
  | none => return (b, false)
  | some i => return ({ b with cursor := i }, true)

def moveRight? (b : TextBuffer) : Option (TextBuffer × Bool) := do
  match ← cutAtByte? b.cursor (chars b) with
  | (_, []) => return (b, false)
  | (_, c :: _) => return ({ b with cursor := b.cursor + c.utf8Size }, true)

def moveUp? (b : TextBuffer) : Option (TextBuffer × Bool) := do
  let start ← lineStart? b b.cursor
  if start = 0 then return (b, false)
  else do
    let (_, column) ← place? b
    let above ← lineStart? b (start - 1)
    return ({ b with cursor := ← offsetInLine? b above column }, true)

def moveDown? (b : TextBuffer) : Option (TextBuffer × Bool) := do
  let stop ← lineEnd? b b.cursor
  if byteLength (chars b) ≤ stop then return (b, false)
  else do
    let (_, column) ← place? b
    return ({ b with cursor := ← offsetInLine? b (stop + 1) column }, true)

def moveToLineStart? (b : TextBuffer) : Option (TextBuffer × Bool) := do
  return ({ b with cursor := ← lineStart? b b.cursor }, true)

def moveToLineEnd? (b : TextBuffer) : Option (TextBuffer × Bool) := do
  return ({ b with cursor := ← lineEnd? b b.cursor }, true)

def insertText? (b : TextBuffer) (s : List Char) : Option (TextBuffer × Bool) := do
  return (← insert? b (s.map (normalize b.multiline)), true)

/-- A key by offsets: the buffer after it, and whether it did anything; none if an offset is no
place to slice at. -/
def press? (b : TextBuffer) (key : Key) : Option (TextBuffer × Bool) :=
  match key.code with
  | .backspace => deleteBefore? b
  | .delete => deleteBehind? b
  | .left => moveLeft? b
  | .right => moveRight? b
  | .up => if b.multiline then moveUp? b else some (b, false)
  | .down => if b.multiline then moveDown? b else some (b, false)
  | .home => moveToLineStart? b
  | .atEnd => moveToLineEnd? b
  | .enter => if b.multiline then do return (← insert? b ['\n'], true) else some (b, false)
  | .tab => if b.multiline then insertText? b [' ', ' '] else some (b, false)
  | .char c =>
      if !key.ctrl then insertText? b [c]
      else if c = 'a' then moveToLineStart? b
      else if c = 'e' then moveToLineEnd? b
      else if c = 'w' then deleteWord? b
      else if c = 'l' then some (edited b [] 0, true)
      else some (b, false)
  | _ => some (b, false)

end ByOffset

/-! ## The same keys -/

/-- What is told about an operation that may have nothing to do. -/
def told (b : TextBuffer) : Option TextBuffer → TextBuffer × Bool
  | some after => (after, true)
  | none => (b, false)

theorem handleKey_eq_told (b : TextBuffer) (key : Key) :
    b.handleKey key = b.told (b.pressKey? key) := by
  unfold handleKey told
  cases b.pressKey? key <;> rfl

namespace Shows

open ByOffset

variable {b : TextBuffer} {h : Halves}

theorem cut (hb : b.Shows h) : cutAtByte? b.cursor (chars b) = some (h.before, h.behind) := by
  rw [chars, hb.content, hb.cursor, cutAtByte?_byteLength]

theorem cut_of_append (hb : b.Shows h) {front rest : List Char}
    (hsame : h.before ++ h.behind = front ++ rest) :
    cutAtByte? (byteLength front) (chars b) = some (front, rest) := by
  rw [chars, hb.content, hsame, cutAtByte?_byteLength]

theorem clamped_eq (hb : b.Shows h) : clamped b = b.cursor := by
  have hle : b.cursor ≤ byteLength (chars b) := by
    rw [chars, hb.content, hb.cursor, byteLength_append]
    exact Nat.le_add_right _ _
  rw [clamped, Nat.min_eq_left hle, chars, hb.content, hb.cursor, boundaryUpTo_byteLength]

theorem behindLast_cut {p : Char → Bool} {kept rest : List Char}
    (hkept : ∀ c ∈ kept.getLast?, p c = true ∧ c.utf8Size = 1)
    (hrest : ∀ c ∈ rest, p c = false) : behindLast p (kept ++ rest) = byteLength kept := by
  unfold behindLast
  rcases List.eq_nil_or_concat' kept with rfl | ⟨front, c, rfl⟩
  · rw [List.nil_append, rfindByte?_eq_none hrest]
    rfl
  · have hc := hkept c (by simp)
    rw [List.append_assoc, List.singleton_append, rfindByte?_cut front hc.1 hrest]
    simp [hc.2]

theorem isLineFeed_of_oneLine {line : List Char} (h : OneLine line) :
    ∀ c ∈ line, isLineFeed c = false := fun c hc => by
  simpa using notLineFeed_of_oneLine h c hc

theorem lineStart?_eq (hb : b.Shows h) {above line rest : List Char} (habove : EndsLine above)
    (hline : OneLine line) (hsame : h.before ++ h.behind = above ++ line ++ rest) :
    lineStart? b (byteLength (above ++ line)) = some (byteLength above) := by
  have hlast : behindLast isLineFeed (above ++ line) = byteLength above := by
    refine behindLast_cut (fun c hc => ?_) (isLineFeed_of_oneLine hline)
    rw [habove c hc]
    exact ⟨rfl, rfl⟩
  simp only [lineStart?, hb.cut_of_append hsame, hlast, Option.bind_eq_bind, Option.bind_some,
    Option.pure_def]

/-- The line of the cursor starts behind the lines above. -/
theorem lineStart?_cursor (hb : b.Shows h) {above left : List Char} (habove : EndsLine above)
    (hleft : OneLine left) (hbefore : h.before = above ++ left) :
    lineStart? b b.cursor = some (byteLength above) := by
  rw [hb.cursor, hbefore]
  exact hb.lineStart?_eq habove hleft (congrArg (· ++ h.behind) hbefore)

theorem lineEnd?_eq (hb : b.Shows h) {front line below : List Char} (hline : OneLine line)
    (hbelow : BeginsLine below) (hsame : h.before ++ h.behind = front ++ (line ++ below)) :
    lineEnd? b (byteLength front) = some (byteLength (front ++ line)) := by
  have hnone := isLineFeed_of_oneLine hline
  rcases hbelow.cases with rfl | ⟨next, rest, rfl, -, -⟩
  · have hall : byteLength (chars b) = byteLength (front ++ line) := by
      rw [chars, hb.content, hsame, List.append_nil]
    rw [List.append_nil] at hsame
    simp [lineEnd?, hb.cut_of_append hsame, findByte?_eq_none hnone, hall]
  · simp [lineEnd?, hb.cut_of_append hsame, findByte?_cut hnone (rfl : isLineFeed '\n' = true)]

theorem place?_eq (hb : b.Shows h) : place? b = some b.place := by
  rcases exists_lastLine h.before with ⟨above, left, hbefore, habove, hleft⟩
  have hstart := hb.lineStart?_cursor habove hleft hbefore
  simp only [place?, hb.cut, hstart, hbefore, cutAtByte?_byteLength, place, hb.before,
    lastLine_cut habove hleft, Option.bind_eq_bind, Option.bind_some, Option.pure_def]

/-- A column of a line, or its end, in bytes. -/
theorem offsetInLine?_eq (hb : b.Shows h) {front line below : List Char} (hline : OneLine line)
    (hbelow : BeginsLine below) (hsame : h.before ++ h.behind = front ++ (line ++ below))
    (column : Nat) :
    offsetInLine? b (byteLength front) column
      = some (byteLength (front ++ line.take column)) := by
  have hstop := hb.cut_of_append (hsame.trans (List.append_assoc front line below).symm)
  simp only [offsetInLine?, hb.lineEnd?_eq hline hbelow hsame, hstop, cutAtByte?_byteLength,
    getElem?_charStarts, Option.bind_eq_bind, Option.bind_some, Option.pure_def]
  split
  next hsome =>
    simp only [Option.ite_none_right_eq_some, Option.some.injEq] at hsome
    rw [byteLength_append, hsome.2]
  next hnone =>
    have hle : line.length ≤ column := by simpa using hnone
    rw [List.take_of_length_le hle]

/-! ### One operation after the other -/

theorem insert?_eq (hb : b.Shows h) (s : List Char) : ByOffset.insert? b s = some (b.insert s) := by
  simp only [ByOffset.insert?, hb.clamped_eq, hb.cut, edited, insert, TextBuffer.withParts,
    hb.before, hb.behind, ← hb.cursor, byteLength_append, Option.bind_eq_bind, Option.bind_some,
    Option.pure_def]

theorem insertText?_eq (hb : b.Shows h) (s : List Char) :
    ByOffset.insertText? b s = some (b.insertText s, true) := by
  simp [ByOffset.insertText?, hb.insert?_eq, insertText]

theorem deleteBefore?_eq (hb : b.Shows h) :
    ByOffset.deleteBefore? b = some (b.told b.deleteBefore?) := by
  rcases h with ⟨before, behind⟩
  rcases List.eq_nil_or_concat' before with rfl | ⟨front, c, rfl⟩
  · simp [ByOffset.deleteBefore?, hb.cut, charStarts, TextBuffer.deleteBefore?, hb.before, told]
  · have hcut : cutAtByte? (byteLength front) (chars b) = some (front, c :: behind) :=
      hb.cut_of_append (by simp)
    simp [ByOffset.deleteBefore?, hb.cut, getLast?_charStarts_concat, remove?, hcut, edited,
      TextBuffer.deleteBefore?, hb.before, hb.behind, told, TextBuffer.withParts]

theorem deleteBehind?_eq (hb : b.Shows h) :
    ByOffset.deleteBehind? b = some (b.told b.deleteBehind?) := by
  have hsize : byteLength (chars b) = b.cursor + byteLength h.behind := by
    rw [chars, hb.content, hb.cursor, byteLength_append]
  rcases h with ⟨before, behind⟩
  cases behind with
  | nil =>
      simp [ByOffset.deleteBehind?, hsize, TextBuffer.deleteBehind?, hb.behind, told]
  | cons c rest =>
      have hpos := Char.utf8Size_pos c
      have hlt : ¬ byteLength (chars b) ≤ b.cursor := by
        rw [hsize, byteLength_cons]
        omega
      rw [ByOffset.deleteBehind?, if_neg hlt, hb.clamped_eq]
      simp [remove?, hb.cut, edited, TextBuffer.deleteBehind?, hb.before, hb.behind, told,
        TextBuffer.withParts, ← hb.cursor]

theorem deleteWord?_eq (hb : b.Shows h) :
    ByOffset.deleteWord? b = some (b.told b.deleteWord?) := by
  rcases h with ⟨before, behind⟩
  rcases exists_wordCut before with ⟨kept, word, spaces, rfl, hword⟩
  have htrimmed : ((kept ++ (word ++ spaces)).reverse.dropWhile (· = ' ')).reverse
      = kept ++ word := by
    rw [← List.append_assoc]
    exact dropWhile_reverse_cut (fun c hc => by simpa using hword.trimmed c hc)
      (fun c hc => by simpa using hword.inSpaces c hc)
  have hstart : behindLast (fun c => c = ' ' || c = '\n') (kept ++ word) = byteLength kept := by
    refine behindLast_cut (fun c hc => ?_) fun c hc => by simpa using hword.inWord c hc
    rcases hword.keptEnds c hc with rfl | rfl <;> exact ⟨rfl, rfl⟩
  -- offsets are compared where the model compares numbers of characters
  have hsame : byteLength kept = b.cursor
      ↔ kept.length = (kept ++ (word ++ spaces)).length := by
    have hzero : byteLength (word ++ spaces) = 0 ↔ (word ++ spaces).length = 0 := by
      rw [byteLength_eq_zero_iff, List.length_eq_zero_iff]
    rw [hb.cursor, byteLength_append, List.length_append]
    omega
  simp only [ByOffset.deleteWord?, hb.cut, htrimmed, hstart, cutAtByte?_byteLength, edited,
    TextBuffer.deleteWord?, hb.before, hb.behind, dropWord_cut hword, told, TextBuffer.withParts,
    Option.bind_eq_bind, Option.bind_some, Option.pure_def, hsame]
  split <;> rfl

theorem moveLeft?_eq (hb : b.Shows h) : ByOffset.moveLeft? b = some (b.told b.moveLeft?) := by
  rcases h with ⟨before, behind⟩
  rcases List.eq_nil_or_concat' before with rfl | ⟨front, c, rfl⟩
  · simp [ByOffset.moveLeft?, hb.cut, charStarts, TextBuffer.moveLeft?, hb.before, told]
  · simp [ByOffset.moveLeft?, hb.cut, getLast?_charStarts_concat, TextBuffer.moveLeft?, hb.before,
      told, TextBuffer.moveBehind]

theorem moveRight?_eq (hb : b.Shows h) : ByOffset.moveRight? b = some (b.told b.moveRight?) := by
  rcases h with ⟨before, behind⟩
  cases behind with
  | nil => simp [ByOffset.moveRight?, hb.cut, TextBuffer.moveRight?, hb.behind, told]
  | cons c rest =>
      simp [ByOffset.moveRight?, hb.cut, TextBuffer.moveRight?, hb.before, hb.behind, told,
        TextBuffer.moveBehind, ← hb.cursor]

/-- A movement by offsets that ends where the cursor does. -/
theorem told_moveBehind (b : TextBuffer) (front : List Char) {cursor : Nat}
    (hcursor : cursor = byteLength front) :
    some ({ b with cursor }, true) = some (b.told (some (b.moveBehind front))) := by
  rw [hcursor, told, TextBuffer.moveBehind]

theorem moveUp?_eq (hb : b.Shows h) : ByOffset.moveUp? b = some (b.told b.moveUp?) := by
  rcases exists_up_or h with ⟨h', hup⟩ | hline
  · rcases moveUp?_of_up hb hup with ⟨front, hmove, hshows⟩
    rw [hmove, ← told_moveBehind b front hshows.cursor.symm]
    cases hup with
    | @move above line left behind habove hline hleft =>
        have hends := endsLine_concat (above ++ line)
        have hstart := hb.lineStart?_cursor hends hleft (by simp)
        have hcolumn : b.place.2 = left.length := congrArg Prod.snd
          (hb.place_eq hends hleft (by simp))
        have hsame : above ++ line ++ '\n' :: left ++ behind
            = above ++ line ++ '\n' :: (left ++ behind) := by simp
        have hprev := hb.lineStart?_eq habove hline hsame
        have hfeed := beginsLine_cons (left ++ behind)
        have hoffset := hb.offsetInLine?_eq hline hfeed
          (hsame.trans (List.append_assoc ..)) left.length
        -- the line feed above is one byte
        rw [byteLength_append, show byteLength ['\n'] = 1 from rfl] at hstart
        simp only [ByOffset.moveUp?, hstart, hb.place?_eq, hcolumn, Nat.add_sub_cancel, hprev,
          hoffset, Option.bind_eq_bind, Option.bind_some, Option.pure_def, Nat.add_one_ne_zero,
          if_false]
  · have hstart := hb.lineStart?_cursor endsLine_nil hline rfl
    simp [ByOffset.moveUp?, hstart, moveUp?_of_oneLine hb hline, told]

theorem moveDown?_eq (hb : b.Shows h) : ByOffset.moveDown? b = some (b.told b.moveDown?) := by
  have hsize : byteLength (chars b) = byteLength (h.before ++ h.behind) := by
    rw [chars, hb.content]
  rcases exists_down_or h with ⟨h', hdown⟩ | hline
  · rcases moveDown?_of_down hb hdown with ⟨front, hmove, hshows⟩
    rw [hmove, ← told_moveBehind b front hshows.cursor.symm]
    cases hdown with
    | @move above left right line below habove hleft hright hline hbelow =>
        have hfeed := beginsLine_cons (line ++ below)
        have hstop := hb.lineEnd?_eq hright hfeed rfl
        have hcolumn : b.place.2 = left.length := congrArg Prod.snd (hb.place_eq habove hleft rfl)
        have hsame : above ++ left ++ (right ++ '\n' :: (line ++ below))
            = above ++ left ++ right ++ ['\n'] ++ (line ++ below) := by simp
        have hoffset := hb.offsetInLine?_eq hline hbelow hsame left.length
        rw [byteLength_append, show byteLength ['\n'] = 1 from rfl,
          List.append_assoc _ ['\n'], List.singleton_append] at hoffset
        dsimp only at hsize hstop
        have hinside : ¬ byteLength (chars b) ≤ byteLength (above ++ left ++ right) := by
          rw [hsize, ← List.append_assoc, byteLength_append _ ('\n' :: _), byteLength_cons]
          have hpos := Char.utf8Size_pos '\n'
          omega
        rw [← hb.cursor] at hstop
        simp only [ByOffset.moveDown?, hstop, if_neg hinside, hb.place?_eq, hcolumn, hoffset,
          Option.bind_eq_bind, Option.bind_some, Option.pure_def]
  · have hstop : lineEnd? b (byteLength h.before) = some (byteLength (h.before ++ h.behind)) :=
      hb.lineEnd?_eq hline beginsLine_nil (by rw [List.append_nil])
    rw [← hb.cursor] at hstop
    simp only [ByOffset.moveDown?, hstop, hsize, Nat.le_refl, if_true, Option.bind_eq_bind,
      Option.bind_some, Option.pure_def, moveDown?_of_oneLine hb hline, told]

theorem moveToLineStart?_eq (hb : b.Shows h) :
    ByOffset.moveToLineStart? b = some (b.moveToLineStart, true) := by
  rcases exists_lastLine h.before with ⟨above, left, hbefore, habove, hleft⟩
  have hstart := hb.lineStart?_cursor habove hleft hbefore
  simp [ByOffset.moveToLineStart?, hstart, TextBuffer.moveToLineStart, TextBuffer.moveBehind,
    hb.before, hbefore, linesAbove_cut habove hleft]

theorem moveToLineEnd?_eq (hb : b.Shows h) :
    ByOffset.moveToLineEnd? b = some (b.moveToLineEnd, true) := by
  rcases exists_firstLine h.behind with ⟨right, below, hbehind, hright, hbelow⟩
  have hend := hb.lineEnd?_eq hright hbelow (congrArg (h.before ++ ·) hbehind)
  rw [← hb.cursor] at hend
  simp [ByOffset.moveToLineEnd?, hend, TextBuffer.moveToLineEnd, TextBuffer.moveBehind,
    hb.before, hb.behind, hbehind, firstLine_cut hright hbelow]

/-- No key fails by offsets, and each does what it does to the two texts. -/
theorem press?_eq (hb : b.Shows h) (key : Key) : press? b key = some (b.handleKey key) := by
  rw [handleKey_eq_told]
  rcases key with ⟨code, ctrl⟩
  cases code with
  | backspace => exact hb.deleteBefore?_eq
  | delete => exact hb.deleteBehind?_eq
  | left => exact hb.moveLeft?_eq
  | right => exact hb.moveRight?_eq
  | up =>
      simp only [press?, pressKey?, hb.moveUp?_eq]
      split <;> rfl
  | down =>
      simp only [press?, pressKey?, hb.moveDown?_eq]
      split <;> rfl
  | home => exact hb.moveToLineStart?_eq
  | atEnd => exact hb.moveToLineEnd?_eq
  | enter =>
      simp only [press?, pressKey?, hb.insert?_eq, insertChar]
      split
      next hmulti => simp [hmulti, told]
      next => rfl
  | tab =>
      simp only [press?, pressKey?, hb.insertText?_eq]
      split <;> rfl
  | char c =>
      simp only [press?, pressKey?, hb.insertText?_eq, hb.moveToLineStart?_eq,
        hb.moveToLineEnd?_eq, hb.deleteWord?_eq]
      repeat' split
      all_goals rfl
  | _ => rfl

end Shows

end TextBuffer

end StubConsole
