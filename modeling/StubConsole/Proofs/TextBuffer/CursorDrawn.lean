import StubConsole.Proofs.TextBuffer.Vertical
import StubConsole.View.Editor

/-!
# CursorDrawn — the block of the cursor stands where characters go

A text is drawn in two ways: as a whole, with a block at the byte of the cursor, or row by row, with
the block at a column of one row.  Both put it where the next character is typed.

* `Text.EndsLine.exists_lines`, `Text.BeginsLine.exists_lines` — the lines around a line, whatever
  stands in it;
* `TextBuffer.linesWith`, `TextBuffer.joinWith_linesWith`, `TextBuffer.lines_insert` — a text put in
  at line and column;
* `View.unnumbered`, `View.map_unnumbered_jsonLines` — the rows of a document without their numbers;
* `TextBuffer.cursor_drawn` — the two drawings, and what is typed.
-/

namespace StubConsole

open Text

namespace Text

/-- The lines above a line, whatever stands below them. -/
theorem EndsLine.exists_lines {above : List Char} (h : EndsLine above) :
    ∃ tops, tops.length = above.count '\n'
      ∧ (∀ s, splitOn '\n' (above ++ s) = tops ++ splitOn '\n' s)
      ∧ ∀ parts, parts ≠ [] → joinWith ['\n'] (tops ++ parts) = above ++ joinWith ['\n'] parts := by
  rcases h.cases with rfl | ⟨top, last, rfl, -, -⟩
  · exact ⟨[], rfl, fun s => rfl, fun parts _ => rfl⟩
  · refine ⟨splitOn '\n' (top ++ last), ?_, ?_, ?_⟩
    · simp [length_splitOn, Nat.add_assoc]
    · intro s
      rw [List.append_assoc, List.singleton_append, splitOn_append_sep]
    · intro parts hparts
      rw [joinWith_append _ (splitOn_ne_nil _ _) hparts, joinWith_splitOn]

/-- The lines below a line, whatever stands in it. -/
theorem BeginsLine.exists_lines {below : List Char} (h : BeginsLine below) :
    ∃ bottoms, (∀ line, OneLine line → splitOn '\n' (line ++ below) = line :: bottoms)
      ∧ ∀ inner, joinWith ['\n'] (inner :: bottoms) = inner ++ below := by
  rcases h.cases with rfl | ⟨next, rest, rfl, -, -⟩
  · refine ⟨[], ?_, ?_⟩
    · intro line hline
      rw [List.append_nil, splitOn_of_notMem hline]
    · intro inner
      rw [List.append_nil]
      rfl
  · refine ⟨splitOn '\n' (next ++ rest), ?_, ?_⟩
    · intro line hline
      rw [splitOn_append_sep, splitOn_of_notMem hline, List.singleton_append]
    · intro inner
      have hjoin := joinWith_append ['\n'] (List.cons_ne_nil inner [])
        (splitOn_ne_nil '\n' (next ++ rest))
      rwa [joinWith_splitOn, List.append_assoc, List.singleton_append, List.singleton_append,
        joinWith] at hjoin

end Text

namespace TextBuffer

/-- The lines of a buffer with a text put in at the line and the column of the cursor. -/
def linesWith (b : TextBuffer) (s : List Char) : List (List Char) :=
  b.lines.modify b.place.1 fun line => line.take b.place.2 ++ s ++ line.drop b.place.2

/-- The lines above and below the cursor, and what its own line has on either side of it.  They stay
as they are, whatever is put in between. -/
theorem exists_linesAround (b : TextBuffer) :
    ∃ tops left right bottoms,
      (∀ s, b.linesWith s = tops ++ (left ++ s ++ right) :: bottoms)
      ∧ (∀ s, joinWith ['\n'] (tops ++ (left ++ s ++ right) :: bottoms) = b.before ++ s ++ b.behind)
      ∧ ∀ s, OneLine s →
        splitOn '\n' (b.before ++ s ++ b.behind) = tops ++ (left ++ s ++ right) :: bottoms := by
  rcases exists_lastLine b.before with ⟨above, left, hbefore, habove, hleft⟩
  rcases exists_firstLine b.behind with ⟨right, below, hbehind, hright, hbelow⟩
  rcases habove.exists_lines with ⟨tops, hcount, hsplit, hjoin⟩
  rcases hbelow.exists_lines with ⟨bottoms, hsplit', hjoin'⟩
  have hcut : ∀ s, OneLine s →
      splitOn '\n' (b.before ++ s ++ b.behind) = tops ++ (left ++ s ++ right) :: bottoms := by
    intro s hs
    have hline : OneLine (left ++ s ++ right) := by
      simp [OneLine, show '\n' ∉ left from hleft, show '\n' ∉ s from hs,
        show '\n' ∉ right from hright]
    rw [← hsplit' _ hline, ← hsplit, hbefore, hbehind]
    simp
  have hplace : b.place = (tops.length, left.length) := by
    rw [place, hbefore, lastLine_cut habove hleft, List.count_append, hleft.count, hcount,
      Nat.add_zero]
  refine ⟨tops, left, right, bottoms, ?_, ?_, hcut⟩
  · intro s
    have hlines : b.lines = tops ++ (left ++ right) :: bottoms := by
      simpa [lines, b.before_append_behind] using hcut [] (List.not_mem_nil)
    rw [linesWith, hlines, hplace, List.modify_eq_take_drop]
    simp
  · intro s
    rw [hjoin _ (List.cons_ne_nil _ _), hjoin', hbefore, hbehind]
    simp

/-- A text put in there stands between the two parts of the content. -/
theorem joinWith_linesWith (b : TextBuffer) (s : List Char) :
    joinWith ['\n'] (b.linesWith s) = b.before ++ s ++ b.behind := by
  rcases b.exists_linesAround with ⟨tops, left, right, bottoms, hwith, hjoin, -⟩
  rw [hwith, hjoin]

/-- A text of one line makes no other lines. -/
theorem lines_insert (b : TextBuffer) {s : List Char} (hs : OneLine s) :
    (b.insert s).lines = b.linesWith s := by
  rcases b.exists_linesAround with ⟨tops, left, right, bottoms, hwith, -, hcut⟩
  rw [lines, (Shows.insert b s).content, hcut s hs, hwith]

theorem place_insert (b : TextBuffer) {s : List Char} (hs : OneLine s) :
    (b.insert s).place.1 = b.place.1 := by
  rw [place, place, (Shows.insert b s).before, List.count_append, hs.count, Nat.add_zero]

end TextBuffer

namespace View

/-- The text of a row of a document, its number left out. -/
def unnumbered (row : Line) : List Char := row.tail.flatMap fun span => span.text.toList

theorem map_unnumbered_jsonLines (b : TextBuffer) :
    (jsonLines b true).map unnumbered = b.linesWith [cursorBlock] := by
  refine List.ext_getElem? ?_
  intro i
  rw [jsonLines, TextBuffer.linesWith, TextBuffer.lines, List.getElem?_modify, List.getElem?_map,
    List.getElem?_mapIdx]
  cases (splitOn '\n' b.content.toList)[i]? with
  | none => rfl
  | some line =>
      by_cases hi : i = b.place.1
      · subst hi
        simp [unnumbered, cursorSpans, Span.plain, Span.colored]
      · simp [hi, Ne.symm hi, unnumbered, Span.plain]

end View

namespace TextBuffer

/-- What is drawn for a buffer, and what comes of typing.  The content is split at the byte of the
cursor for one drawing, its lines at line and column for the other. -/
structure CursorDrawn (b : TextBuffer) : Prop where
  rows : joinWith ['\n'] ((View.jsonLines b true).map View.unnumbered) = b.marked.toList
  block : ∃ front rest,
    cutAtByte? (min b.cursor (byteLength b.content.toList)) b.content.toList = some (front, rest)
      ∧ b.marked.toList = front ++ cursorBlock :: rest
  place : ByOffset.place? b = some b.place
  onLine : ∃ line, b.lines[b.place.1]? = some line ∧ b.place.2 ≤ line.length
  typed (c : Char) : (b.handleKey (.ofChar c)).1.content.toList
    = joinWith ['\n'] (b.linesWith [normalize b.multiline c])
  fed (ctrl : Bool) : b.multiline = true → (b.handleKey ⟨.enter, ctrl⟩).1.content.toList
    = joinWith ['\n'] (b.linesWith ['\n'])
  pasted (s : List Char) : (b.insertText s).content.toList
    = joinWith ['\n'] (b.linesWith (s.map (normalize b.multiline)))

theorem toList_content_insert (b : TextBuffer) (s : List Char) :
    (b.insert s).content.toList = joinWith ['\n'] (b.linesWith s) := by
  rw [(Shows.insert b s).content, joinWith_linesWith]

theorem Shows.toList_marked {b : TextBuffer} {h : Halves} (hb : b.Shows h) :
    b.marked.toList = h.before ++ cursorBlock :: h.behind := by
  rw [marked, String.toList_ofList, hb.before, hb.behind]

theorem Shows.min_cursor {b : TextBuffer} {h : Halves} (hb : b.Shows h) :
    min b.cursor (byteLength b.content.toList) = byteLength h.before := by
  rw [hb.cursor, hb.content, byteLength_append]
  exact Nat.min_eq_left (Nat.le_add_right _ _)

/-- In every buffer that editing leads to, the rows with the block in one of them are the content
with the block at its byte, and a character goes where the block is. -/
theorem cursor_drawn {b : TextBuffer} (hb : b.Reachable) : b.CursorDrawn := by
  rcases hb.exists_shows with ⟨h, hb⟩
  refine ⟨?_, ⟨h.before, h.behind, ?_, hb.toList_marked⟩, hb.place?_eq, hb.exists_line, ?_, ?_, ?_⟩
  · rw [View.map_unnumbered_jsonLines, joinWith_linesWith, hb.toList_marked, hb.before, hb.behind]
    simp
  · rw [hb.min_cursor, hb.content, cutAtByte?_byteLength]
  · intro c
    exact toList_content_insert b [normalize b.multiline c]
  · intro ctrl hmulti
    have henter : (b.handleKey ⟨.enter, ctrl⟩).1 = b.insert ['\n'] := by
      simp [handleKey, pressKey?, insertChar, hmulti]
    rw [henter, toList_content_insert]
  · intro s
    exact toList_content_insert b _

/-- Between characters of four bytes and one, with an empty line above and one below. -/
theorem cursor_drawn_emptyLines :
    let b := ((opened true "é\n\n😀b\n").edit (.key (.plain .up))).edit (.key (.plain .right))
    b.Reachable ∧ b.place = (2, 1)
      ∧ joinWith ['\n'] ((View.jsonLines b true).map View.unnumbered) = "é\n\n😀▊b\n".toList := by
  intro b
  have hb : b.Reachable := ((Reachable.opened true _).edit _).edit _
  exact ⟨hb, by decide +kernel, (cursor_drawn hb).rows.trans (by decide +kernel)⟩

end TextBuffer

end StubConsole
