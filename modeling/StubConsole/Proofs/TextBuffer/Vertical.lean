import StubConsole.Proofs.TextBuffer.Editing

/-!
# Vertical — moving between lines

Seen as lines, a content is what stands between its line feeds, and the cursor is at a column of one
of them.  Up and down change the number of the line by one and keep the column, or take the end of
a line that is too short for it.

* `TextBuffer.lines`, `TextBuffer.Reachable` — the lines, and the buffers that editing leads to;
* `TextBuffer.MovesTo` — a movement to a line of a given number;
* `TextBuffer.vertical_moves` — both movements, from every place of every buffer.
-/

namespace StubConsole

open Text

namespace TextBuffer

/-- The content between its line feeds; behind a final one there is an empty line. -/
def lines (b : TextBuffer) : List (List Char) := splitOn '\n' b.content.toList

/-- Buffers that their operations lead to.  Those that are missing here are keys. -/
inductive Reachable : TextBuffer → Prop where
  | opened (multiline : Bool) (content : String) : Reachable (opened multiline content)
  | edit {b : TextBuffer} (h : Reachable b) (e : Edit) : Reachable (b.edit e)
  | insertChar {b : TextBuffer} (h : Reachable b) (c : Char) : Reachable (b.insertChar c)
  | insertText {b : TextBuffer} (h : Reachable b) (s : List Char) : Reachable (b.insertText s)
  | formatJson {b after : TextBuffer} (h : Reachable b) (hafter : b.formatJson = .ok after) :
      Reachable after
  | moveUp {b after : TextBuffer} (h : Reachable b) (hafter : b.moveUp? = some after) :
      Reachable after
  | moveDown {b after : TextBuffer} (h : Reachable b) (hafter : b.moveDown? = some after) :
      Reachable after

/-- A movement that changes the line: the column stays, or becomes the end of the new line. -/
def MovesTo (b : TextBuffer) (moved : Option TextBuffer) (number : Nat) : Prop :=
  ∃ after line, moved = some after ∧ b.lines[number]? = some line
    ∧ after.place = (number, min b.place.2 line.length)
    ∧ after.content = b.content ∧ after.dirty = b.dirty

/-- Up and down from where the cursor is.  They go to the neighbouring line, and on the first and on
the last line they do nothing and say so. -/
structure MovesVertically (b : TextBuffer) : Prop where
  onLine : ∃ line, b.lines[b.place.1]? = some line ∧ b.place.2 ≤ line.length
  onFirst : b.place.1 = 0 → b.told b.moveUp? = (b, false)
  up : b.place.1 ≠ 0 → b.MovesTo b.moveUp? (b.place.1 - 1)
  onLast : b.place.1 + 1 = b.lines.length → b.told b.moveDown? = (b, false)
  down : b.place.1 + 1 ≠ b.lines.length → b.MovesTo b.moveDown? (b.place.1 + 1)

/-! ## Places -/

section Places

variable {b : TextBuffer} {h h' : Halves}

theorem Shows.insert (b : TextBuffer) (s : List Char) :
    (b.insert s).Shows ⟨b.before ++ s, b.behind⟩ := .withParts b _ _

/-- Between its characters a cursor has two texts around it, which movements and changes keep. -/
theorem Reachable.exists_shows (hb : b.Reachable) : ∃ h, b.Shows h := by
  induction hb with
  | opened multiline content => exact ⟨_, (shows_opened multiline content).1⟩
  | edit _ e ih =>
      rcases ih with ⟨h, hb⟩
      rcases exists_step h _ e with ⟨h', hstep⟩
      exact ⟨h', (shows_edit_of_step hb hstep).1⟩
  | insertChar _ c ih =>
      rw [TextBuffer.insertChar]
      split
      · exact ih
      · exact ⟨_, .insert _ _⟩
  | insertText _ s _ => exact ⟨_, .insert _ _⟩
  | formatJson _ hafter _ =>
      unfold TextBuffer.formatJson at hafter
      split at hafter
      · cases hafter
        exact ⟨_, .setContent _ _⟩
      · cases hafter
  | moveUp _ hafter ih =>
      rcases ih with ⟨h, hb⟩
      rcases exists_up_or h with ⟨h', hup⟩ | hline
      · rcases moveUp?_of_up hb hup with ⟨front, hmove, hshows⟩
        cases hmove.symm.trans hafter
        exact ⟨h', hshows⟩
      · cases (moveUp?_of_oneLine hb hline).symm.trans hafter
  | moveDown _ hafter ih =>
      rcases ih with ⟨h, hb⟩
      rcases exists_down_or h with ⟨h', hdown⟩ | hline
      · rcases moveDown?_of_down hb hdown with ⟨front, hmove, hshows⟩
        cases hmove.symm.trans hafter
        exact ⟨h', hshows⟩
      · cases (moveDown?_of_oneLine hb hline).symm.trans hafter

/-- The line that a number names, given what stands above and below it. -/
theorem Shows.line_eq (hb : b.Shows h) {above line below : List Char} (habove : EndsLine above)
    (hline : OneLine line) (hbelow : BeginsLine below)
    (hsame : h.before ++ h.behind = above ++ line ++ below) :
    b.lines[above.count '\n']? = some line := by
  rw [lines, hb.content, hsame]
  exact getElem?_splitOn habove hline hbelow

/-- The cursor is in one of the lines. -/
theorem Shows.exists_line (hb : b.Shows h) :
    ∃ line, b.lines[b.place.1]? = some line ∧ b.place.2 ≤ line.length := by
  rcases exists_lastLine h.before with ⟨above, left, hbefore, habove, hleft⟩
  rcases exists_firstLine h.behind with ⟨right, below, hbehind, hright, hbelow⟩
  have hline : OneLine (left ++ right) := fun hmem => (List.mem_append.1 hmem).elim hleft hright
  rw [hb.place_eq habove hleft hbefore]
  refine ⟨left ++ right, hb.line_eq habove hline hbelow ?_, ?_⟩
  · simp [hbefore, hbehind]
  · simp

theorem count_concat_lineFeed (s : List Char) : (s ++ ['\n']).count '\n' = s.count '\n' + 1 := by
  simp

/-! ## Movements -/

theorem Shows.movesTo_of_up (hb : b.Shows h) (hup : h.Up h') :
    b.place.1 ≠ 0 ∧ b.MovesTo b.moveUp? (b.place.1 - 1) := by
  rcases moveUp?_of_up hb hup with ⟨front, hmove, hshows⟩
  cases hup with
  | @move above line left behind habove hline hleft =>
      have hplace := hb.place_eq (endsLine_concat (above ++ line)) hleft (by simp)
      have hfeed := beginsLine_cons (left ++ behind)
      have hline' := hb.line_eq habove hline hfeed (by simp)
      have hafter := hshows.place_eq habove (hline.take left.length) rfl
      rw [count_concat_lineFeed, List.count_append, hline.count, Nat.add_zero] at hplace
      rw [hplace]
      refine ⟨Nat.succ_ne_zero _, _, line, hmove, hline', ?_, rfl, rfl⟩
      rw [hafter, hplace, List.length_take]
      rfl

theorem Shows.movesTo_of_down (hb : b.Shows h) (hdown : h.Down h') :
    b.place.1 + 1 < b.lines.length ∧ b.MovesTo b.moveDown? (b.place.1 + 1) := by
  rcases moveDown?_of_down hb hdown with ⟨front, hmove, hshows⟩
  cases hdown with
  | @move above left right line below habove hleft hright hline hbelow =>
      have hplace := hb.place_eq habove hleft rfl
      have hends := endsLine_concat (above ++ left ++ right)
      have hcount : (above ++ left ++ right ++ ['\n']).count '\n' = above.count '\n' + 1 := by
        simp only [List.count_append, hleft.count, hright.count]
        rfl
      have hline' := hb.line_eq hends hline hbelow (by simp)
      have hafter := hshows.place_eq hends (hline.take left.length) (by simp)
      rw [hcount] at hline' hafter
      rw [hplace]
      refine ⟨(List.getElem?_eq_some_iff.1 hline').1, _, line, hmove, hline', ?_, rfl, rfl⟩
      rw [hafter, hplace, List.length_take]

theorem Shows.movesVertically (hb : b.Shows h) : b.MovesVertically := by
  have hcount : b.lines.length = h.before.count '\n' + h.behind.count '\n' + 1 := by
    rw [lines, length_splitOn, hb.content, List.count_append]
  have hplace : b.place.1 = h.before.count '\n' := by rw [place, hb.before]
  -- a text has a line above or below the cursor, or it is one line there; the counts of line feeds
  -- tell which of the two it is
  refine ⟨hb.exists_line, ?_, ?_, ?_, ?_⟩
  · intro hfirst
    rcases exists_up_or h with ⟨h', hup⟩ | hline
    · exact absurd hfirst (hb.movesTo_of_up hup).1
    · rw [moveUp?_of_oneLine hb hline, told]
  · intro hbelow
    rcases exists_up_or h with ⟨h', hup⟩ | hline
    · exact (hb.movesTo_of_up hup).2
    · exact absurd (hplace.trans hline.count) hbelow
  · intro hlast
    rcases exists_down_or h with ⟨h', hdown⟩ | hline
    · exact absurd hlast (Nat.ne_of_lt (hb.movesTo_of_down hdown).1)
    · rw [moveDown?_of_oneLine hb hline, told]
  · intro habove
    rcases exists_down_or h with ⟨h', hdown⟩ | hline
    · exact (hb.movesTo_of_down hdown).2
    · exact absurd (by rw [hcount, hplace, hline.count, Nat.add_zero]) habove

end Places

/-- From every place of every buffer, up and down change the line by one and keep the column where
they can.  Line and column are those found by offsets, and so are both movements. -/
theorem vertical_moves {b : TextBuffer} (hb : b.Reachable) :
    b.MovesVertically ∧ ByOffset.place? b = some b.place
      ∧ ByOffset.moveUp? b = some (b.told b.moveUp?)
      ∧ ByOffset.moveDown? b = some (b.told b.moveDown?) := by
  rcases hb.exists_shows with ⟨h, hb⟩
  exact ⟨hb.movesVertically, hb.place?_eq, hb.moveUp?_eq, hb.moveDown?_eq⟩

/-- From the end of a long line up to a short one, over characters of one to four bytes. -/
theorem vertical_moves_shortLine :
    let b := opened true "é\r\n😀bcd"
    b.Reachable ∧ b.place = (1, 4) ∧ b.MovesTo b.moveUp? 0 := by
  intro b
  have hb : b.Reachable := .opened true _
  have hplace : b.place = (1, 4) := by decide +kernel
  have hup := (vertical_moves hb).1.up
  rw [hplace] at hup
  exact ⟨hb, hplace, hup (by decide)⟩

end TextBuffer

end StubConsole
