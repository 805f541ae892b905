import StubConsole.Console.Basic
import StubConsole.View.Pages

/-!
# Dialogs — boxes over the screen

* `scenarioDialog` — the choice of a new state for a scenario;
* `fieldDialog` — the input on the selected field of the editor;
* `dialogs` — the one that the console asks for.
-/

namespace StubConsole

namespace View

/-- A box in the middle of the screen. -/
def dialogBox (title : String) (width height : Nat) (d : Drawing) : Drawing :=
  .centered width height
    ((d.framed (" " ++ title ++ " ") Palette.heading).under Palette.dialog)

def helpLine (text : String) : Drawing := (Paragraph.centered (Line.plain text)).under Palette.muted

/-! ## Scenarios -/

def stateLine (picked : Option Nat) (place : Nat) (state : String) : Line :=
  if picked = some place then
    [.colored .yellow Listing.arrow, ⟨(Style.colored .green).strong, state⟩]
  else [.plain "  ", .plain state]

/-- At most eight states are shown. -/
def scenarioDialog (d : ScenarioDialog) : Drawing := fun w h =>
  let rows := min d.possibleStates.length 8
  let trouble : Drawing := match d.error with
    | some error => note (.colored .red) error
    | none => if d.saving then note (.colored .cyan) "Saving..." else .blank
  let label (text : String) : Drawing := note (.colored .lightCyan) text
  dialogBox ("Set state: " ++ d.name) (min (w * 3 / 5) 70) (9 + rows)
    (.above 1 (label "Possible states:")
      (.above rows (Paragraph.clipped (d.possibleStates.mapIdx (stateLine d.picked)) 0)
        (.above 1 .blank
          (.above 1 (label "New state:")
            (.above 1 (note (Style.colored .yellow).strong d.input.marked)
              (.above 1 trouble
                (.upon .blank 1 (helpLine "↑/↓: Choose  |  Enter: Apply  |  Esc: Cancel"))))))))
    w h

/-! ## Fields -/

/-- The input, scrolled so that the line of its cursor is in sight. -/
def inputView (input : TextBuffer) : Drawing := fun w h =>
  (Paragraph.wrapped (Paragraph.linesOf input.marked) ((input.place.1 - (h - 1)) % 0x10000)).under
    (.colored .yellow) w h

def fieldDialog (label : String) (input : TextBuffer) : Drawing := fun w h =>
  let help := if input.multiline then "Ctrl+S: Store  |  Enter: New line  |  Esc: Cancel"
    else "Enter: Store  |  Esc: Cancel"
  dialogBox label (min (w * 7 / 10) 100) (if input.multiline then h * 3 / 5 else 5)
    (.upon (inputView input) 1 (helpLine help)) w h

/-! ## All dialogs -/

/-- The dialog that the console asks for; nothing is drawn if it asks for none. -/
def dialogs (s : Console) : Drawing :=
  match s.mode, s.scenarioPage.dialog, s.lineInput, s.editor.active with
  | .dialog, some d, _, _ => scenarioDialog d
  | .editingField, _, none, some ⟨kind, session⟩ =>
      let _ := StubKind.instForm kind
      match session.input with
      | some input =>
          fieldDialog ((session.rows.find? (·.selected)).elim "Value" (·.label)) input
      | none => .blank
  | _, _, _, _ => .blank

end View

end StubConsole
