import StubConsole.Stub.Pattern
import StubConsole.Stub.Response

/-!
# Stub — a REST stub

A stub ties a request pattern to a response, and may take part in a scenario, a state machine that
several stubs share.

* `ScenarioRef` — a scenario by name, with a state of it;
* `Stub` — the record, `Stub.fresh` the draft a new one starts from;
* `Stub.setScenarioName` — a stub without a scenario has no scenario states either.
-/

namespace StubConsole

structure ScenarioRef where
  name : String
  state : Option String
  deriving DecidableEq, Repr

structure Stub where
  /-- Empty as long as the stub was never saved. -/
  id : String
  name : String
  request : RequestPattern
  response : ResponseDefinition
  priority : Option Int
  scenario : Option ScenarioRef
  requiredScenarioState : Option String
  newScenarioState : Option String
  persistent : Option Bool
  enabled : Option Bool
  metadata : Option Json
  /-- Members that the console does not model; they are written back as they came. -/
  extra : SortedMap Json
  deriving DecidableEq, Repr

namespace Stub

/-- The draft that a new stub starts from. -/
def fresh : Stub where
  id := ""
  name := "New Stub"
  request := { RequestPattern.empty with method := "GET", urlPath := some "/" }
  response :=
    { ResponseDefinition.empty with
      status := 200
      body := some "\x7b\"message\": \"Hello from WireMock UI!\"\x7d" }
  priority := none
  scenario := none
  requiredScenarioState := none
  newScenarioState := none
  persistent := none
  enabled := some true
  metadata := none
  extra := ∅

instance : Inhabited Stub := ⟨fresh⟩

def isNew (s : Stub) : Bool := s.id = ""

/-- A stub is enabled unless it says otherwise. -/
def isEnabled (s : Stub) : Bool := s.enabled.getD true

def scenarioName (s : Stub) : String := (s.scenario.map (·.name)).getD ""

/-- Moves the stub to another scenario; the empty name takes it out of its scenario, along with
both states. -/
def setScenarioName (s : Stub) (name : String) : Stub :=
  if name = "" then
    { s with scenario := none, requiredScenarioState := none, newScenarioState := none }
  else
    match s.scenario with
    | some scenario => { s with scenario := some { scenario with name } }
    | none => { s with scenario := some ⟨name, none⟩ }

end Stub

end StubConsole
