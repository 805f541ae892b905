import StubConsole.Console.Basic
import StubConsole.View.Journal
import StubConsole.View.Pages

/-!
# Editor — the open stub on the screen

Tabs on top, then the fields of the tab or the JSON text, then the errors of the last save.  What
came back from the last execution stands on the right.

* `rowText`, `formLines` — the fields;
* `jsonLines`, `jsonOffset` — the JSON text, and how far it is scrolled;
* `responsePanel` — the outcome of an execution;
* `editor` — all together.
-/

namespace StubConsole

namespace View

/-! ## Tabs -/

def tabLine {α : Type} (session : Session α) : Line :=
  if session.json.isSome then
    [⟨Palette.chosen, " JSON "⟩, ⟨Palette.muted, "  J:back to form"⟩]
  else
    let tab (t : FormTab) : Line :=
      [⟨if t = session.tab then Palette.chosen else .colored .gray, " " ++ t.title ++ " "⟩,
        .plain " "]
    FormTab.all.flatMap tab ++ [⟨Palette.muted, " J:JSON"⟩]

/-! ## Fields -/

/-- The value of a row, of which only the first line is shown. -/
def firstOfLines (row : FieldRow) : String :=
  match row.kind, Text.lines row.value with
  | .multiline, [] => ""
  | .multiline, [line] => line
  | .multiline, line :: more => line ++ " … (+" ++ Text.ofNat more.length ++ " lines)"
  | _, _ => row.value

def rowText (row : FieldRow) (editing : Bool) : String :=
  let value := firstOfLines row
  match row.kind with
  | .cycle => "< " ++ value ++ " >"
  | .toggle => "[" ++ (if value = "Yes" then "x" else " ") ++ "]"
  | .line | .multiline =>
      if editing then "[editing]" else if value = "" then emptyText else "[" ++ value ++ "]"

/-- A row, and below the selected one what there is to know about it. -/
def rowLines (editing : Bool) (row : FieldRow) : List Line :=
  let editing := editing && row.selected
  let hint : List Line := match row.hint with
    | some hint => if row.selected then [Line.styled Palette.muted ("    " ++ hint)] else []
    | none => []
  fieldLine (row.label ++ ":") (rowText row editing) row.selected editing :: hint

def formView (rows : List FieldRow) (editing : Bool) : Drawing :=
  if rows.isEmpty then note Palette.muted "No fields on this tab"
  else Paragraph.wrapped ([] :: rows.flatMap (rowLines editing)) 0

/-! ## JSON -/

/-- A line of the text with the cursor after the given number of characters. -/
def cursorSpans (text : List Char) (column : Nat) : Line :=
  [.plain (String.ofList (text.take column)), .colored .yellow cursorBlock.toString,
    .plain (String.ofList (text.drop column))]

/-- The lines of the text with their numbers, and with the cursor while the text is edited. -/
def jsonLines (b : TextBuffer) (editing : Bool) : List Line :=
  (Text.splitOn '\n' b.content.toList).mapIdx fun i text =>
    let number : Span := ⟨Palette.muted, Text.padStart 4 (Text.ofNat (i + 1)) ++ " "⟩
    if editing && i == b.place.1 then number :: cursorSpans text b.place.2
    else [number, .plain (String.ofList text)]

/-- Lines above the first one shown in a box of some height, so that the line of the cursor is in
it.  The number has 16 bits. -/
def jsonOffset (line height : Nat) : Nat := (line - ((height - 2) - 1)) % 0x10000

def jsonView (b : TextBuffer) (editing : Bool) : Drawing := fun w h =>
  (Paragraph.clipped (jsonLines b editing) (jsonOffset b.place.1 h)).framed
    (if editing then " JSON (editing) " else " JSON (Enter to edit) ")
    (if editing then Palette.focused else Palette.unfocused) w h

/-! ## Errors -/

def errorView (errors : List String) : Drawing :=
  (Paragraph.clipped (errors.map fun e => Line.colored .red ("• " ++ e)) 0).framed " Validation "
    (.colored .red)

/-! ## The response -/

def executionLines (copied : Bool) : Execution → List Line
  | .failed message =>
      [Line.styled (Style.colored .red).strong "❌ Error", []]
        ++ (Text.lines message).map (Line.colored .red)
  | .answered status reason headers body milliseconds =>
      let bodyStyle : Style :=
        if copied then { (Style.onto .green).strong with foreground := some .black } else .plain
      [[.colored .cyan "Status: ",
          .colored (Palette.status status) (Text.ofNat status ++ " " ++ reason),
          .plain "  ", .colored .cyan "Duration: ",
          .plain (Text.ofNat milliseconds ++ "ms")]]
        ++ (headers.entries.map fun (name, value) =>
          [⟨Palette.muted, name ++ ": "⟩, Span.plain value])
        ++ [[]] ++ (bodyLines body).map (Line.styled bodyStyle)

/-- The outcome of the last execution, below the lines that were scrolled away. -/
def responsePanel (pane : EditorPane) (copied : Bool) : Drawing :=
  let lines :=
    if pane.executing then [Line.colored .cyan "⏳ Executing request..."]
    else (pane.response.map (executionLines copied)).getD []
  (Paragraph.wrapped lines (pane.scroll % 0x10000)).framed " Response (Ctrl+U/Ctrl+D scroll) "
    Palette.unfocused

/-! ## The editor -/

/-- Fields or text of a session, and the errors below them. -/
def sessionView {α Field : Type} [Form α Field] (session : Session α) (mode : InputMode) :
    Drawing :=
  let body := match session.json with
    | some buffer => jsonView buffer (mode = .editingJson)
    | none => formView session.rows session.input.isSome
  let body := if session.errors.isEmpty then body
    else .upon body (session.errors.length + 2) (errorView session.errors)
  .above 1 (Paragraph.clipped [tabLine session] 0) body

def editorTitle {α Field : Type} [Form α Field] (session : Session α) : String :=
  " " ++ session.title ++ " " ++ (if session.saving then "- saving... " else "")

/-- The open editor; nothing is drawn if none is open. -/
def editor (s : Console) : Drawing :=
  match s.editor.active with
  | none => .blank
  | some ⟨kind, session⟩ =>
      let _ := StubKind.instForm kind
      let body := sessionView session s.mode
      page (editorTitle session)
        (if s.editor.executing || s.editor.response.isSome then
          .beside 55 body (responsePanel s.editor s.copied)
        else body)

end View

end StubConsole
