import StubConsole.Form.Rows

/-!
# GraphQl — the form of a GraphQL stub
-/

namespace StubConsole

open Rows

inductive GraphQlField where
  | operationName
  | query
  | bindings
  | response
  | scenarioName
  | requiredState
  | newState
  | name
  | priority
  | persistent
  | enabled
  | metadata
  deriving DecidableEq, Repr

namespace GraphQlField

def onTab : FormTab → List GraphQlField
  | .request => [.operationName, .query, .bindings]
  | .response => [.response]
  | .scenarios => [.scenarioName, .requiredState, .newState]
  | .advanced => [.name, .priority, .persistent, .enabled, .metadata]

def label : GraphQlField → String
  | .operationName => "Operation Name"
  | .query => "Query"
  | .bindings => "Variables (JSON)"
  | .response => "Response (JSON)"
  | .scenarioName => "Scenario"
  | .requiredState => "Required State"
  | .newState => "New State"
  | .name => "Name"
  | .priority => "Priority"
  | .persistent => "Persistent"
  | .enabled => "Enabled"
  | .metadata => "Metadata (JSON)"

def kind : GraphQlField → FieldKind
  | .query | .bindings | .response | .metadata => .multiline
  | .persistent | .enabled => .toggle
  | .operationName | .scenarioName | .requiredState | .newState | .name | .priority => .line

end GraphQlField

namespace GraphQlStub

def fieldValue (s : GraphQlStub) : GraphQlField → String
  | .operationName => s.operationName
  | .query => s.query
  | .bindings => s.bindings.getD ""
  | .response => s.response
  | .scenarioName => s.scenarioName.getD ""
  | .requiredState => s.requiredScenarioState.getD ""
  | .newState => s.newScenarioState.getD ""
  | .name => s.name
  | .priority => intText s.priority
  | .persistent => yesNo (s.persistent.getD false)
  | .enabled => yesNo s.enabled
  | .metadata => writeMetadata s.metadata

def cycleField (s : GraphQlStub) : GraphQlField → GraphQlStub
  | .persistent => { s with persistent := some (!s.persistent.getD false) }
  | .enabled => { s with enabled := !s.enabled }
  | _ => s

/-- Moves the stub to another scenario; without one it has no scenario states either. -/
def setScenarioName (s : GraphQlStub) (name : Option String) : GraphQlStub :=
  match name with
  | some _ => { s with scenarioName := name }
  | none =>
      { s with scenarioName := none, requiredScenarioState := none, newScenarioState := none }

def setField (s : GraphQlStub) (field : GraphQlField) (text : String) :
    Except FieldError GraphQlStub :=
  match field with
  | .operationName => return { s with operationName := Text.trim text }
  | .query => return { s with query := text }
  | .bindings => return { s with bindings := if Text.allBlank text then none else some text }
  | .response => return { s with response := text }
  | .scenarioName => return s.setScenarioName (optionalText text)
  | .requiredState => return { s with requiredScenarioState := optionalText text }
  | .newState => return { s with newScenarioState := optionalText text }
  | .name => return { s with name := Text.trim text }
  | .priority => return { s with priority := ← readPriority text }
  | .metadata => return { s with metadata := ← readMetadata text }
  | .persistent | .enabled => return s.cycleField field

def fieldHint (s : GraphQlStub) : GraphQlField → Option String
  | .query => s.operationType?.map fun t => "operation type: " ++ t
  | _ => none

instance : Form GraphQlStub GraphQlField where
  noun := "GraphQL stub"
  fields := GraphQlField.onTab
  label := GraphQlField.label
  kind := GraphQlField.kind
  value := fieldValue
  setValue := setField
  cycle := cycleField
  hint := fieldHint
  id := GraphQlStub.id
  setId s id := { s with id }
  displayName := GraphQlStub.name
  faults := GraphQlStub.faults

end GraphQlStub

end StubConsole
