import StubConsole.Screen.Line

/-!
# Picture — drawings and how they are put together

A drawing fills any rectangle it is given.  Drawings are put side by side, one above the other and
into frames; a style under a drawing shows where the drawing has none of its own.

* `Row`, `Picture`, `Drawing` — rows of cells, rectangles of cells, and pictures of any size;
* `Drawing.under`, `above`, `upon`, `beside`, `framed`, `centered` — compositions;
* `Row.shown` — a row as the terminal shows it: a wide symbol hides the cells it covers.
-/

namespace StubConsole

abbrev Row := List Cell

namespace Row

def blank (width : Nat) : Row := List.replicate width .blank

/-- The cells with blanks behind them up to the width. -/
def fit (width : Nat) (cells : List Cell) : Row :=
  (cells ++ blank (width - cells.length)).take width

def under (style : Style) (row : Row) : Row := row.map (Cell.under style)

/-- The row with a style laid over all its cells. -/
def marked (style : Style) (row : Row) : Row :=
  row.map fun c => { c with style := c.style.under style }

/-- What shows of a row whose first cells are covered by a wide symbol. -/
def shownFrom (covered : Nat) : Row → Row
  | [] => []
  | c :: rest =>
      (if covered = 0 then c else .blank) :: shownFrom (c.width - 1) rest

def shown (row : Row) : Row := shownFrom 0 row

/-- The symbols of a row, without the blanks at its end. -/
def text (row : Row) : String :=
  let symbols := (String.join (row.map (·.symbol))).toList
  String.ofList (symbols.reverse.dropWhile (· = ' ')).reverse

/-- The styles of a row, each with the number of cells that have it in a row. -/
def runs (row : Row) : List (Nat × Style) :=
  row.foldr
    (fun c runs =>
      match runs with
      | (n, style) :: rest =>
          if c.style = style then (n + 1, style) :: rest else (1, c.style) :: runs
      | [] => [(1, c.style)])
    []

end Row

/-- Rows from top to bottom. -/
abbrev Picture := List Row

namespace Picture

def blank (width height : Nat) : Picture := List.replicate height (Row.blank width)

/-- The picture with blank rows below it up to the height. -/
def fit (width height : Nat) (rows : List Row) : Picture :=
  (rows ++ blank width (height - rows.length)).take height

def under (style : Style) (p : Picture) : Picture := p.map (Row.under style)

def beside (left right : Picture) : Picture := List.zipWith (· ++ ·) left right

/-- The picture as the terminal shows it. -/
def shown (p : Picture) : Picture := p.map Row.shown

end Picture

/-- A picture for every width and height. -/
abbrev Drawing := Nat → Nat → Picture

namespace Drawing

def blank : Drawing := Picture.blank

def under (d : Drawing) (style : Style) : Drawing := fun w h => (d w h).under style

/-- The first drawing gets the given number of rows, the second one what is left. -/
def above (rows : Nat) (top bottom : Drawing) : Drawing := fun w h =>
  let rows := min rows h
  top w rows ++ bottom w (h - rows)

/-- The second drawing gets the given number of rows, the first one what is left. -/
def upon (top : Drawing) (rows : Nat) (bottom : Drawing) : Drawing := fun w h =>
  let rows := min rows h
  top w (h - rows) ++ bottom w rows

/-- The first drawing gets the given percentage of the columns, rounded to the nearest one. -/
def beside (percent : Nat) (left right : Drawing) : Drawing := fun w h =>
  let columns := min w ((w * percent + 50) / 100)
  (left columns h).beside (right (w - columns) h)

/-- A drawing of a size of its own in the middle. -/
def centered (width height : Nat) (d : Drawing) : Drawing := fun w h =>
  let width := min width w
  let height := min height h
  let left := (w - width) / 2
  let rows := (d width height).map fun row => Row.fit w (Row.blank left ++ row)
  Picture.fit w h (Picture.blank w ((h - height) / 2) ++ rows)

/-! ## Frames -/

/-- A row of a frame.  Where there is no room for both ends, the left one stays. -/
def rule (left right : String) (inner : Nat → List Cell) : Nat → Row
  | 0 => []
  | 1 => [⟨.plain, left⟩]
  | w + 2 => ⟨.plain, left⟩ :: inner w ++ [⟨.plain, right⟩]

/-- The horizontal side of a frame, with a title at its start. -/
def side (title : Line) (width : Nat) : List Cell :=
  let cells := title.cells width
  cells ++ List.replicate (width - cells.length) ⟨.plain, "─"⟩

/-- A box with a title on its upper side.  The style of the border shows under the title as
well. -/
def framed (d : Drawing) (title : String) (border : Style) : Drawing := fun w h =>
  let top := (rule "┌" "┐" (side (Line.ofText title)) w).under border
  let bottom := (rule "└" "┘" (side []) w).under border
  match h with
  | 0 => []
  | 1 => [top]
  | h + 2 =>
      let edge : Cell := ⟨border, "│"⟩
      let walled (row : Row) : Row := if w ≤ 1 then [edge].take w else edge :: row ++ [edge]
      top :: (d (w - 2) h).map walled ++ [bottom]

end Drawing

end StubConsole
