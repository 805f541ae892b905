import StubConsole.Screen.Picture

/-!
# Paragraph — lines of text in a rectangle

A paragraph either cuts its lines at the edge or wraps them there.  Wrapping breaks a line between
words and keeps all blanks, except those that a break falls on; a word that is wider than the
rectangle is broken where it has to be.

* `Paragraph.clipped` — lines cut at the edge;
* `Paragraph.wrapped` — lines wrapped at the edge;
* `Paragraph.centered` — one line in the middle;
* `Paragraph.wrap` — the rows of one line.
-/

namespace StubConsole

namespace Paragraph

/-- The lines of a text; an empty text has one empty line. -/
def linesOf (text : String) : List Line :=
  if text = "" then [[]] else (Text.lines text).map .plain

/-! ## Rows -/

/-- The glyphs up to the edge; those that are too wide for any row are left out. -/
def cut (width : Nat) : Nat → List Cell → List Cell
  | _, [] => []
  | used, g :: rest =>
      if width < g.width then cut width used rest
      else if width < used + g.width then []
      else g :: cut width (used + g.width) rest

/-- The columns of glyphs. -/
def glyphsWidth (glyphs : List Cell) : Nat :=
  glyphs.foldr (fun g n => g.width + n) 0

/-- A row of glyphs.  Those without a column of their own are not drawn. -/
def rowOf (width offset : Nat) (glyphs : List Cell) : Row :=
  -- a wide glyph is followed by blanks for its other columns
  let cells := (glyphs.filter (·.width ≠ 0)).flatMap fun g =>
    g :: List.replicate (g.width - 1) .blank
  Row.fit width (Row.blank offset ++ cells)

/-! ## Wrapping -/

/-- A symbol at which a line may be broken: blanks, except for the one that is made to prevent
this. -/
def breaks (symbol : String) : Bool :=
  symbol = "\u200b" || (symbol.toList.all Text.isBlank && symbol ≠ "\u00a0")

/-- How far the wrapping of a line has come. -/
structure Wrapping where
  /-- Rows that are complete. -/
  done : List (List Cell)
  /-- What is certain to stand on the current row. -/
  row : List Cell
  /-- Blanks behind it. -/
  blanks : List Cell
  /-- The word behind the blanks, as far as it was read. -/
  word : List Cell
  /-- The last glyph was part of a word. -/
  inWord : Bool

namespace Wrapping

def start : Wrapping := ⟨[], [], [], [], false⟩

/-- Puts blanks and word on the row. -/
def settle (s : Wrapping) : Wrapping :=
  { s with row := s.row ++ s.blanks ++ s.word, blanks := [], word := [] }

/-- The blanks without those at the front that fit into some room. -/
def dropFitting : Nat → List Cell → List Cell
  | _, [] => []
  | room, g :: rest => if room < g.width then g :: rest else dropFitting (room - g.width) rest

/-- Ends the row, together with the blanks that fit on it. -/
def finishRow (width : Nat) (s : Wrapping) : Wrapping :=
  { s with
    done := s.done ++ [s.row]
    row := []
    blanks := dropFitting (width - glyphsWidth s.row) s.blanks }

/-- Reads the next glyph of the line. -/
def push (width : Nat) (s : Wrapping) (g : Cell) : Wrapping :=
  if width < g.width then s
  else
    let blank := breaks g.symbol
    let pending := glyphsWidth s.blanks + glyphsWidth s.word
    -- a word that is longer than a row is broken where the row is full
    let overflows := s.row.isEmpty && width < pending + g.width
    let s := if (s.inWord && blank) || overflows then s.settle else s
    let used := glyphsWidth s.row
    -- the row has no room for what waits and one more glyph
    let full := width ≤ used
      || (0 < g.width && width ≤ used + glyphsWidth s.blanks + glyphsWidth s.word)
    let s' := if full then s.finishRow width else s
    -- the blank at which the row was broken is not drawn
    if full && blank && s'.blanks.isEmpty then s'
    else if blank then { s' with blanks := s'.blanks ++ [g], inWord := false }
    else { s' with word := s'.word ++ [g], inWord := true }

/-- The rows, once the line is read.  A line of blanks only starts with an empty row; there is
always at least one row. -/
def rows (s : Wrapping) : List (List Cell) :=
  let onlyBlanks := s.row.isEmpty && s.word.isEmpty && !s.blanks.isEmpty
  let last := s.settle.row
  let done := s.done ++ (if onlyBlanks then [[]] else []) ++ (if last.isEmpty then [] else [last])
  if done.isEmpty then [[]] else done

end Wrapping

/-- The rows of a line. -/
def wrap (width : Nat) (line : Line) : List (List Cell) :=
  (line.glyphs.foldl (Wrapping.push width) .start).rows

/-! ## Drawings -/

/-- Lines cut at the edge, without those above the given offset. -/
def clipped (lines : List Line) (offset : Nat) : Drawing := fun w h =>
  Picture.fit w h (((lines.drop offset).take h).map fun line => rowOf w 0 (cut w 0 line.glyphs))

/-- Lines wrapped at the edge, without the rows above the given offset. -/
def wrapped (lines : List Line) (offset : Nat) : Drawing := fun w h =>
  if w = 0 then Picture.blank w h
  else Picture.fit w h ((((lines.flatMap (wrap w)).drop offset).take h).map (rowOf w 0))

/-- A line in the middle of the first row. -/
def centered (line : Line) : Drawing := fun w h =>
  let glyphs := cut w 0 line.glyphs
  Picture.fit w h ([rowOf w (w / 2 - glyphsWidth glyphs / 2) glyphs].take h)

end Paragraph

end StubConsole
