import StubConsole.Proofs.TextBuffer.CursorDrawn

/-!
# LineInView — the line of the cursor in its box

A document is scrolled just so far that the line of the cursor is in its box.  The number of lines
that are left out above the box has 16 bits.  Where more of them would have to be left out, the
counting starts again at zero, the box shows lines from further up, and what is typed is not seen.

What is proved here is about the offset that a box is drawn with.  That a paragraph of the terminal
library then shows the lines from this offset on, for each of the 16-bit offsets and also where the
rows below it pass the last one, is an assumption about that library: `Paragraph.ShowsFromOffset`.

* `Picture.getElem?_fit`, `Picture.length_fit` — the rows of a picture;
* `Paragraph.ShowsFromOffset` — what is assumed of a paragraph; so it is with `Paragraph.clipped`;
* `View.InBox`, `View.inBox_jsonOffset_iff` — when the line of a cursor is in the box;
* `View.getElem?_jsonView_place`, `View.jsonView_insert` — the line of a cursor in the picture, and
  out of it;
* `TextBuffer.line_inView_iff` — what this means for a cursor and for a whole document.
-/

namespace StubConsole

open Text

/-! ## Rows of a picture -/

namespace Picture

theorem getElem?_fit {w h i : Nat} (rows : List Row) (hi : i < h) :
    (fit w h rows)[i]? = some (rows[i]?.getD (Row.blank w)) := by
  rw [fit, List.getElem?_take_of_lt hi]
  by_cases hrows : i < rows.length
  · rw [List.getElem?_append_left hrows, List.getElem?_eq_getElem hrows]
    rfl
  · have hrows : rows.length ≤ i := Nat.le_of_not_lt hrows
    rw [List.getElem?_append_right hrows, List.getElem?_eq_none hrows, blank,
      List.getElem?_replicate_of_lt (by omega)]
    rfl

theorem length_fit (w h : Nat) (rows : List Row) : (fit w h rows).length = h := by
  rw [fit, List.length_take, List.length_append, blank, List.length_replicate]
  omega

end Picture

namespace Drawing

/-- A row between the sides of a frame. -/
def walled (border : Style) (w : Nat) (row : Row) : Row :=
  let edge : Cell := ⟨border, "│"⟩
  if w ≤ 1 then [edge].take w else edge :: row ++ [edge]

end Drawing

/-! ## What is assumed of a paragraph -/

namespace Paragraph

/-- The row of a line that is cut at the edge. -/
def lineRow (w : Nat) (line : Line) : Row := rowOf w 0 (cut w 0 line.glyphs)

/-- What is assumed of the paragraphs of the terminal library.  Drawn from an offset of 16 bits on,
one fills its rectangle: each row has the line that is so many lines below the offset, or is blank
where there is none. -/
structure ShowsFromOffset (draw : List Line → Nat → Drawing) : Prop where
  row : ∀ lines {offset w h i : Nat}, offset < 0x10000 → i < h →
    (draw lines offset w h)[i]? = some ((lines[offset + i]?.map (lineRow w)).getD (Row.blank w))
  height : ∀ lines {offset w h : Nat}, offset < 0x10000 → (draw lines offset w h).length = h

theorem showsFromOffset_clipped : ShowsFromOffset clipped where
  row lines offset w h i _ hi := by
    rw [clipped, Picture.getElem?_fit _ hi, List.getElem?_map, List.getElem?_take_of_lt hi,
      List.getElem?_drop]
    rfl
  height _ _ _ _ _ := Picture.length_fit _ _ _

namespace ShowsFromOffset

variable {draw : List Line → Nat → Drawing} {lines lines' : List Line} {offset w h : Nat}

/-- Lines above and below those in the rectangle are of no account. -/
theorem congr_lines (hdraw : ShowsFromOffset draw) (hoffset : offset < 0x10000)
    (hlines : ∀ i < h, lines[offset + i]? = lines'[offset + i]?) :
    draw lines offset w h = draw lines' offset w h := by
  refine List.ext_getElem? ?_
  intro i
  by_cases hi : i < h
  · rw [hdraw.row lines hoffset hi, hdraw.row lines' hoffset hi, hlines i hi]
  · have hbelow : ∀ ls, (draw ls offset w h)[i]? = none := fun ls =>
      List.getElem?_eq_none (by rw [hdraw.height ls hoffset]; exact Nat.le_of_not_lt hi)
    rw [hbelow, hbelow]

end ShowsFromOffset

end Paragraph

/-! ## How far a document is scrolled -/

namespace View

/-- A line is in a box of the given height, sides included, that shows lines from an offset on. -/
def InBox (line offset h : Nat) : Prop := offset ≤ line ∧ line < offset + (h - 2)

theorem jsonOffset_lt (line h : Nat) : jsonOffset line h < 0x10000 :=
  Nat.mod_lt _ (by decide)

theorem jsonOffset_le (line h : Nat) : jsonOffset line h ≤ line :=
  (Nat.mod_le _ _).trans (Nat.sub_le _ _)

/-- The line of a cursor is in the box just if the lines above the box can be counted. -/
theorem inBox_jsonOffset_iff {line h : Nat} (hh : 3 ≤ h) :
    InBox line (jsonOffset line h) h ↔ line < 0x10000 + (h - 3) := by
  have hle := jsonOffset_le line h
  unfold InBox jsonOffset at *
  constructor
  · intro hbox
    by_contra hfar
    -- the box shows the line only if nothing is lost of its offset, and a remainder is too small
    have hmod := Nat.mod_lt (line - (h - 2 - 1)) (show 0 < 0x10000 by decide)
    omega
  · intro hnear
    rw [Nat.mod_eq_of_lt (by omega)]
    omega

/-! ## Lines in the box of a document -/

section Box

variable {b b' : TextBuffer} {editing : Bool} {w h : Nat}

/-- The line of the cursor, with its number and, while the text is edited, with the cursor. -/
def cursorLine (b : TextBuffer) (editing : Bool) (text : List Char) : Line :=
  ⟨Palette.muted, padStart 4 (ofNat (b.place.1 + 1)) ++ " "⟩
    :: if editing then cursorSpans text b.place.2 else [.plain (String.ofList text)]

theorem getElem?_jsonLines_place :
    (jsonLines b editing)[b.place.1]? = b.lines[b.place.1]?.map (cursorLine b editing) := by
  rw [jsonLines, List.getElem?_mapIdx, TextBuffer.lines]
  cases (splitOn '\n' b.content.toList)[b.place.1]? with
  | none => rfl
  | some text => cases editing <;> simp [cursorLine]

/-- Away from the cursor a line has its number and its text. -/
theorem getElem?_jsonLines_of_ne {i : Nat} (hi : i ≠ b.place.1) :
    (jsonLines b editing)[i]? = b.lines[i]?.map fun text =>
      [⟨Palette.muted, padStart 4 (ofNat (i + 1)) ++ " "⟩, .plain (String.ofList text)] := by
  rw [jsonLines, List.getElem?_mapIdx, TextBuffer.lines]
  simp [hi]

/-- A text of one line put in at the cursor is seen in no other line. -/
theorem getElem?_jsonLines_insert {s : List Char} (hs : OneLine s) {i : Nat}
    (hi : i ≠ b.place.1) :
    (jsonLines (b.insert s) editing)[i]? = (jsonLines b editing)[i]? := by
  rw [getElem?_jsonLines_of_ne (by rwa [b.place_insert hs]), getElem?_jsonLines_of_ne hi,
    b.lines_insert hs, TextBuffer.linesWith, List.getElem?_modify_ne _ _ (Ne.symm hi)]

def boxBorder (editing : Bool) : Style := if editing then Palette.focused else Palette.unfocused

/-- A line of a document in its box. -/
def boxed (editing : Bool) (w : Nat) (line : Line) : Row :=
  Drawing.walled (boxBorder editing) w (Paragraph.lineRow (w - 2) line)

/-- The upper and the lower side of the box are the same for all documents. -/
theorem exists_jsonView_eq (editing : Bool) (w : Nat) :
    ∃ top bottom, ∀ b h,
      let rows := Paragraph.clipped (jsonLines b editing) (jsonOffset b.place.1 (h + 2)) (w - 2) h
      jsonView b editing w (h + 2)
        = top :: rows.map (Drawing.walled (boxBorder editing) w) ++ [bottom] :=
  ⟨_, _, fun _ _ => rfl⟩

theorem getElem?_jsonView {i : Nat} (hi : i < h) {line : Line}
    (hline : (jsonLines b editing)[jsonOffset b.place.1 (h + 2) + i]? = some line) :
    (jsonView b editing w (h + 2))[i + 1]? = some (boxed editing w line) := by
  rcases exists_jsonView_eq editing w with ⟨top, bottom, hview⟩
  have hrow :
      (Paragraph.clipped (jsonLines b editing) (jsonOffset b.place.1 (h + 2)) (w - 2) h)[i]?
        = some (Paragraph.lineRow (w - 2) line) := by
    rw [Paragraph.showsFromOffset_clipped.row _ (jsonOffset_lt _ _) hi, hline]
    rfl
  rw [hview, List.cons_append, List.getElem?_cons_succ, List.getElem?_append_left,
    List.getElem?_map, hrow]
  · rfl
  · rw [List.length_map]
    exact (List.getElem?_eq_some_iff.1 hrow).1

/-- The picture of a document is made of the lines in the box. -/
theorem jsonView_congr (hplace : b'.place.1 = b.place.1)
    (hlines : ∀ i, InBox i (jsonOffset b.place.1 (h + 2)) (h + 2) →
      (jsonLines b' editing)[i]? = (jsonLines b editing)[i]?) :
    jsonView b' editing w (h + 2) = jsonView b editing w (h + 2) := by
  rcases exists_jsonView_eq editing w with ⟨top, bottom, hview⟩
  have hrows : Paragraph.clipped (jsonLines b' editing) (jsonOffset b.place.1 (h + 2)) (w - 2) h
      = Paragraph.clipped (jsonLines b editing) (jsonOffset b.place.1 (h + 2)) (w - 2) h :=
    Paragraph.showsFromOffset_clipped.congr_lines (jsonOffset_lt _ _) fun i hi =>
      hlines _ ⟨Nat.le_add_right _ _, Nat.add_lt_add_left (by simpa using hi) _⟩
  rw [hview, hview, hplace, hrows]

/-- In the box, the line of the cursor has the row of its number. -/
theorem getElem?_jsonView_place (hbox : InBox b.place.1 (jsonOffset b.place.1 (h + 2)) (h + 2))
    {text : List Char} (htext : b.lines[b.place.1]? = some text) :
    (jsonView b editing w (h + 2))[b.place.1 - jsonOffset b.place.1 (h + 2) + 1]?
      = some (boxed editing w (cursorLine b editing text)) := by
  rcases hbox with ⟨hle, hlt⟩
  refine getElem?_jsonView ?_ ?_
  · simpa using Nat.sub_lt_left_of_lt_add hle hlt
  · rw [Nat.add_sub_cancel' hle, getElem?_jsonLines_place, htext]
    rfl

/-- Out of the box, what comes into the line of the cursor is not seen. -/
theorem jsonView_insert (hbox : ¬ InBox b.place.1 (jsonOffset b.place.1 (h + 2)) (h + 2))
    {s : List Char} (hs : OneLine s) :
    jsonView (b.insert s) editing w (h + 2) = jsonView b editing w (h + 2) := by
  refine jsonView_congr (b.place_insert hs) ?_
  intro i hi
  refine getElem?_jsonLines_insert hs ?_
  rintro rfl
  exact hbox hi

end Box

end View

namespace TextBuffer

/-- What becomes of the line of the cursor in a box.  If the lines above the box can be counted, it
is drawn; if not, nothing that is typed or pasted into it changes what is drawn. -/
structure LineInView (b : TextBuffer) (editing : Bool) (w h : Nat) : Prop where
  offset_le : View.jsonOffset b.place.1 h ≤ b.place.1
  inBox_iff : View.InBox b.place.1 (View.jsonOffset b.place.1 h) h ↔ b.place.1 < 0x10000 + (h - 3)
  /-- This and the next rest on `Paragraph.ShowsFromOffset`. -/
  drawn : b.place.1 < 0x10000 + (h - 3) → ∃ line, b.lines[b.place.1]? = some line
    ∧ (View.jsonView b editing w h)[b.place.1 - View.jsonOffset b.place.1 h + 1]?
      = some (View.boxed editing w (View.cursorLine b editing line))
  hidden : 0x10000 + (h - 3) ≤ b.place.1 → ∀ s, OneLine s →
    View.jsonView (b.insertText s) editing w h = View.jsonView b editing w h
  everywhere_iff : (∀ b' : TextBuffer, b'.Reachable → b'.content = b.content →
      View.InBox b'.place.1 (View.jsonOffset b'.place.1 h) h)
    ↔ b.lines.length ≤ 0x10000 + (h - 3)

/-- A document is opened with the cursor in its last line. -/
theorem place_opened (content : String) :
    (opened true content).place.1 = content.toList.count '\n' := by
  rw [place, (shows_opened true content).1.before]
  rfl

theorem Reachable.place_lt {b : TextBuffer} (hb : b.Reachable) : b.place.1 < b.lines.length := by
  rcases hb.exists_shows with ⟨h, hb⟩
  rcases hb.exists_line with ⟨line, hline, -⟩
  exact (List.getElem?_eq_some_iff.1 hline).1

/-- A cursor stays in the box of its document wherever it goes just if it does so in the last
line. -/
theorem inBox_everywhere_iff (b : TextBuffer) {h : Nat} (hh : 3 ≤ h) :
    (∀ b' : TextBuffer, b'.Reachable → b'.content = b.content →
      View.InBox b'.place.1 (View.jsonOffset b'.place.1 h) h)
    ↔ b.lines.length ≤ 0x10000 + (h - 3) := by
  constructor
  · intro hall
    have hlast := hall (opened true b.content) (.opened true _) rfl
    rw [View.inBox_jsonOffset_iff hh, place_opened] at hlast
    rwa [lines, length_splitOn]
  · intro hshort b' hb' hsame
    have hlt := hb'.place_lt
    rw [lines, hsame] at hlt
    exact (View.inBox_jsonOffset_iff hh).2 (Nat.lt_of_lt_of_le hlt hshort)

theorem normalize_ne_lineFeed (multiline : Bool) {c : Char} (hc : c ≠ '\n') :
    normalize multiline c ≠ '\n' := by
  have hstraight : straighten c ≠ '\n' := by
    unfold straighten
    split
    · decide
    · split
      · decide
      · exact hc
  simp only [normalize]
  split
  · decide
  · exact hstraight

theorem oneLine_map_normalize (multiline : Bool) {s : List Char} (hs : OneLine s) :
    OneLine (s.map (normalize multiline)) := by
  intro hmem
  rcases List.mem_map.1 hmem with ⟨c, hc, hfeed⟩
  exact normalize_ne_lineFeed multiline (fun heq => hs (heq ▸ hc)) hfeed

/-! ## A long document -/

theorem count_prettyItems_replicate (level : Nat) {item : Json}
    (hitem : (item.prettyChars level).count '\n' = 0) (n : Nat) :
    (Json.prettyItems level (List.replicate n item)).count '\n' = n := by
  have hnew : (Json.newLine level).count '\n' = 1 := by simp [Json.newLine, List.count_replicate]
  -- the last item is apart, since no comma follows it
  induction n with
  | zero => rfl
  | succ n ih =>
      cases n with
      | zero => simp [List.replicate, Json.prettyItems, hnew, hitem]
      | succ n =>
          rw [List.replicate_succ] at ih
          rw [List.replicate_succ, List.replicate_succ, Json.prettyItems, List.count_append,
            List.count_append, hnew, hitem, List.count_cons_of_ne (by decide), ih, Nat.add_comm]

/-- A list of zeros as it is written, one on a line, and the cursor at its end. -/
def zeros (n : Nat) : TextBuffer :=
  opened true (Json.arr (List.replicate n (.num (.whole 0)))).pretty

theorem place_zeros (n : Nat) : (zeros (n + 1)).place.1 = n + 2 := by
  have hzero : (Json.prettyChars 1 (.num (.whole 0))).count '\n' = 0 := by decide
  have hitems := count_prettyItems_replicate 1 hzero (n + 1)
  rw [List.replicate_succ] at hitems
  rw [zeros, place_opened, Json.pretty, String.toList_ofList, List.replicate_succ, Json.prettyChars,
    List.count_append, List.count_append, List.count_cons_of_ne (by decide), hitems]
  rfl

theorem reachable_zeros (n : Nat) : (zeros n).Reachable := .opened true _

/-! ## The line of the cursor -/

/-- In every buffer that editing leads to, and in a box of every size, the line of the cursor is
drawn just if it is not too far down.  The cursor can go anywhere in a document without being lost
just if the document is not too long. -/
theorem line_inView_iff {b : TextBuffer} (hb : b.Reachable) (editing : Bool) (w : Nat) {h : Nat}
    (hh : 3 ≤ h) : b.LineInView editing w h := by
  obtain ⟨n, rfl⟩ : ∃ n, h = n + 2 := ⟨h - 2, by omega⟩
  have hiff : View.InBox b.place.1 (View.jsonOffset b.place.1 (n + 2)) (n + 2)
      ↔ b.place.1 < 0x10000 + (n + 2 - 3) := View.inBox_jsonOffset_iff hh
  refine ⟨View.jsonOffset_le _ _, hiff, ?_, ?_, inBox_everywhere_iff b hh⟩
  · intro hnear
    rcases hb.exists_shows with ⟨halves, hshows⟩
    rcases hshows.exists_line with ⟨line, hline, -⟩
    exact ⟨line, hline, View.getElem?_jsonView_place (hiff.2 hnear) hline⟩
  · intro hfar s hs
    exact View.jsonView_insert (fun hbox => absurd (hiff.1 hbox) (Nat.not_lt_of_le hfar))
      (oneLine_map_normalize b.multiline hs)

/-- In a box for one line, the cursor is seen everywhere in a document of 65536 lines.  At the end
of a document with one more of them, nothing that is typed is seen. -/
theorem line_inView_iff_zeros :
    (zeros 65534).Reachable ∧ (zeros 65535).Reachable
      ∧ (∀ b' : TextBuffer, b'.Reachable → b'.content = (zeros 65534).content →
        View.InBox b'.place.1 (View.jsonOffset b'.place.1 3) 3)
      ∧ ∀ s, OneLine s →
        View.jsonView ((zeros 65535).insertText s) true 80 3
          = View.jsonView (zeros 65535) true 80 3 := by
  have hshort := line_inView_iff (reachable_zeros 65534) true 80 (Nat.le_refl 3)
  have hlong := line_inView_iff (reachable_zeros 65535) true 80 (Nat.le_refl 3)
  have hcount : (zeros 65534).lines.length = 65536 := by
    have hplace : (zeros 65534).place.1 = 65535 := place_zeros 65533
    rw [zeros, place_opened] at hplace
    rw [lines, length_splitOn]
    exact congrArg (· + 1) hplace
  have hplace : (zeros 65535).place.1 = 65536 := place_zeros 65534
  exact ⟨reachable_zeros _, reachable_zeros _, hshort.everywhere_iff.2 (Nat.le_of_eq hcount),
    hlong.hidden (Nat.le_of_eq hplace.symm)⟩

/-- At the end of 65558 lines in a box for 22, the first of them are shown again. -/
theorem lastLine_outOfBox :
    (zeros 65556).Reachable ∧ (zeros 65556).place.1 = 65557
      ∧ View.jsonOffset (zeros 65556).place.1 24 = 0
      ∧ ¬ View.InBox (zeros 65556).place.1 (View.jsonOffset (zeros 65556).place.1 24) 24 := by
  have hplace : (zeros 65556).place.1 = 65557 := place_zeros 65555
  rw [hplace, View.inBox_jsonOffset_iff (by decide)]
  exact ⟨reachable_zeros _, rfl, rfl, by decide⟩

end TextBuffer

end StubConsole
