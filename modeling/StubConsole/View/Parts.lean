import StubConsole.Screen.Listing
import StubConsole.Screen.Paragraph
import StubConsole.TextBuffer
import StubConsole.View.Palette

/-!
# Parts — what the pages are made of

* `TextBuffer.marked` — a text with a block at its cursor;
* `page` — a box with the border of what has the keyboard;
* `searchBox` — the search text over a list;
* `loading`, `failure`, `emptiness` — what stands in the place of a list.
-/

namespace StubConsole

/-- The sign for the cursor in a text. -/
def cursorBlock : Char := '▊'

/-- The content with a block at the cursor. -/
def TextBuffer.marked (b : TextBuffer) : String :=
  String.ofList (b.before ++ cursorBlock :: b.behind)

namespace View

/-- What stands for an empty text. -/
def emptyText : String := "[_____]"

def orEmptyText (text : String) : String := if text = "" then emptyText else text

/-- The pictures of the sign that turns while something is under way. -/
def spinner (turn : Nat) : String :=
  match turn % 4 with
  | 0 => "⠋"
  | 1 => "⠙"
  | 2 => "⠹"
  | _ => "⠸"

/-- A text in one style. -/
def note (style : Style) (text : String) : Drawing :=
  (Paragraph.clipped (Paragraph.linesOf text) 0).under style

def page (title : String) (d : Drawing) : Drawing := d.framed title Palette.focused

/-- The search text over a list, with the number of rows shown. -/
def searchBox (query : String) (active : Bool) (shown total : Nat) : Drawing :=
  let border : Color :=
    if active then .cyan else if query ≠ "" then .green else .darkGray
  let title :=
    if query = "" then " Search (/) "
    else " Search [" ++ Text.ofNat shown ++ "/" ++ Text.ofNat total ++ "] "
  (note .plain (if active then query ++ "_" else query)).framed title (.colored border)

/-! ## In the place of a list -/

/-- A message in a box of one color. -/
def message (title text : String) (color : Color) : Drawing :=
  ((note .plain text).framed title .plain).under (.colored color)

def loading (title : String) (turn : Nat) : Drawing :=
  message title (spinner turn ++ " Loading...\n\nPlease wait...") .yellow

def failure (title error : String) : Drawing :=
  let lines := Paragraph.linesOf ("❌ " ++ error ++ "\n\nPress [Ctrl+R] to retry")
  ((Paragraph.wrapped lines 0).framed title .plain).under (.colored .red)

def emptiness (title text : String) : Drawing := message title text .darkGray

/-- What is shown while there are no rows. -/
def placeholder (title : String) (error : Option String) (text : String) : Drawing :=
  match error with
  | some error => failure title error
  | none => emptiness title text

end View

end StubConsole
