import StubConsole.Scenario
import StubConsole.Text.Blank
import StubConsole.TextBuffer

/-!
# ScenarioDialog — moving a scenario to another state

The new state is typed, or picked from the states that the scenario is known to have.

* `ScenarioDialog.opened` — the dialog of a scenario;
* `ScenarioDialog.pick` — one step through the known states;
* `ScenarioDialog.submission` — the state to move to.
-/

namespace StubConsole

structure ScenarioDialog where
  id : String
  name : String
  possibleStates : List String
  input : TextBuffer
  /-- The place of the state that was picked last, until something is typed. -/
  picked : Option Nat
  error : Option String
  saving : Bool
  deriving DecidableEq, Repr

namespace ScenarioDialog

/-- Opens with the current state as the text. -/
def opened (s : Scenario) : ScenarioDialog where
  id := s.id
  name := s.name
  possibleStates := s.possibleStates
  input := .singleLine s.state
  picked := none
  error := none
  saving := false

inductive Direction where
  | forward
  | backward
  deriving DecidableEq, Repr

/-- The place a step away, around the ends of a list of the given length. -/
def step (length : Nat) : Option Nat → Direction → Nat
  | none, .forward => 0
  | none, .backward => length - 1
  | some i, .forward => (i + 1) % length
  | some i, .backward => (i + length - 1) % length

/-- Steps through the known states and takes over the text of the one reached. -/
def pick (d : ScenarioDialog) (direction : Direction) : ScenarioDialog :=
  let place := step d.possibleStates.length d.picked direction
  match d.possibleStates[place]? with
  | some state => { d with picked := some place, input := d.input.setContent state }
  | none => d

/-- The text of a missing state. -/
def stateRequired : String := "New state is required"

/-- The typed state without the blanks around it. -/
def submission (d : ScenarioDialog) : Except String String :=
  match Text.nonBlank? d.input.content with
  | some state => .ok state
  | none => .error stateRequired

end ScenarioDialog

end StubConsole
