import StubConsole.Screen.Style
import StubConsole.Text.Lines
import StubConsole.Text.Width

/-!
# Line — styled text on one row of cells

A line consists of spans of one style each.  On the screen every cluster of a line has a cell of
its own; a wide one covers the cells behind it, which stay blank.

* `Span`, `Line` — text with styles;
* `Cell` — what a cell shows;
* `Line.glyphs` — the clusters of a line, each in the cell it wants;
* `Line.cells` — a line on a row with limited room.
-/

namespace StubConsole

structure Span where
  style : Style
  text : String
  deriving DecidableEq, Repr

abbrev Line := List Span

structure Cell where
  style : Style
  symbol : String
  deriving DecidableEq, Repr

namespace Cell

def blank : Cell := ⟨.plain, " "⟩

instance : Inhabited Cell := ⟨blank⟩

def under (below : Style) (c : Cell) : Cell := { c with style := below.under c.style }

/-- The columns that the symbol takes. -/
def width (c : Cell) : Nat := Text.width c.symbol.toList

/-- The cell with another symbol on top of its own. -/
def compose (c : Cell) (symbol : String) : Cell := { c with symbol := c.symbol ++ symbol }

end Cell

namespace Span

def plain (text : String) : Span := ⟨.plain, text⟩

def colored (c : Color) (text : String) : Span := ⟨.colored c, text⟩

/-- Line feeds take up a column but are not drawn. -/
def width (s : Span) : Nat := Text.width s.text.toList

/-- The clusters of a span, in its style. -/
def glyphs (s : Span) : List Cell :=
  ((Text.clusters s.text.toList).filter (· ≠ ['\n'])).map fun cluster =>
    ⟨s.style, String.ofList cluster⟩

/-- Puts glyphs behind the cells already drawn, as long as they fit into the room.  A glyph
without a column of its own goes on top of the cell before it. -/
def fill (drawn : List Cell) : Nat → List Cell → List Cell
  | _, [] => drawn
  | room, g :: rest =>
      if room < g.width then drawn
      else if g.width = 0 then
        match drawn.getLast? with
        | none => fillFirst g room rest
        | some last => fill (drawn.dropLast ++ [last.compose g.symbol]) room rest
      else fill (drawn ++ g :: List.replicate (g.width - 1) .blank) (room - g.width) rest
where
  /-- The first cell so far holds only glyphs without a column: the next one joins them. -/
  fillFirst (first : Cell) : Nat → List Cell → List Cell
    | _, [] => [first]
    | room, g :: rest =>
        if room < g.width then [first]
        else if g.width = 0 then fillFirst (first.compose g.symbol) room rest
        else
          fill (first.compose g.symbol :: List.replicate (g.width - 1) .blank) (room - g.width) rest

/-- The cells of a span, at most as many as there is room for.  A span without a column of its own
is not drawn. -/
def cells (room : Nat) (s : Span) : List Cell :=
  if room = 0 || s.width = 0 then []
  else
    let drawn := fill [] room s.glyphs
    drawn ++ List.replicate (min room s.width - drawn.length) .blank

end Span

namespace Line

def plain (text : String) : Line := [.plain text]

def styled (style : Style) (text : String) : Line := [⟨style, text⟩]

def colored (c : Color) (text : String) : Line := styled (.colored c) text

/-- A text of several lines on one row, without its line ends. -/
def ofText (text : String) : Line := (Text.lines text).map .plain

def text (line : Line) : String := String.join (line.map (·.text))

def glyphs (line : Line) : List Cell := line.flatMap Span.glyphs

/-- The cells of a line, at most as many as there is room for. -/
def cells (room : Nat) : Line → List Cell
  | [] => []
  | s :: rest => s.cells room ++ cells (room - s.width) rest

end Line

end StubConsole
