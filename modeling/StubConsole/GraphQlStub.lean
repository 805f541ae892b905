import StubConsole.Json.Record
import StubConsole.Text.Lines

/-!
# GraphQlStub — a stub for one GraphQL operation

The response document and the variables are kept as JSON text, so that what the user typed stays
as it is.
-/

namespace StubConsole

open Rule Members

structure GraphQlStub where
  /-- Empty as long as the stub was never saved. -/
  id : String
  name : String
  operationName : String
  query : String
  /-- The values of the variables of the query, as JSON text. -/
  bindings : Option String
  response : String
  priority : Option Int
  scenarioName : Option String
  requiredScenarioState : Option String
  newScenarioState : Option String
  persistent : Option Bool
  enabled : Bool
  metadata : Option Json
  /-- Members that the console does not model; they are written back as they came. -/
  extra : SortedMap Json
  deriving DecidableEq, Repr

namespace GraphQlStub

/-- The draft that a new stub starts from. -/
def fresh : GraphQlStub where
  id := ""
  name := "New GraphQL Stub"
  operationName := ""
  query := ""
  bindings := none
  response := "\x7b\"data\": \x7b\x7d\x7d"
  priority := none
  scenarioName := none
  requiredScenarioState := none
  newScenarioState := none
  persistent := none
  enabled := true
  metadata := none
  extra := ∅

instance : Inhabited GraphQlStub := ⟨fresh⟩

def isNew (s : GraphQlStub) : Bool := s.id = ""

/-- The keywords that open an operation. -/
def operationKeywords : List String := ["query", "mutation", "subscription"]

/-- The kind of operation the query text opens with; a bare selection is a query. -/
def operationType? (s : GraphQlStub) : Option String :=
  let text := Text.trimStart s.query
  (operationKeywords.find? (Text.beginsWith text)).or
    (if Text.beginsWith text "\x7b" then some "query" else none)

/-! ## Written form -/

def names : List String :=
  ["id", "name", "operationName", "query", "variables", "response", "priority", "scenarioName",
   "requiredScenarioState", "newScenarioState", "persistent", "enabled", "metadata"]

def ofJson? (doc : Json) : Option GraphQlStub := do
  let m ← ofObject? doc
  return {
    id := ← m.field "id" ident
    name := ← m.field "name" text
    operationName := ← m.field "operationName" text
    query := ← m.field "query" text
    bindings := ← m.field "variables" looseOption
    response := ← m.field "response" loose
    priority := ← m.field "priority" (optional int32)
    scenarioName := ← m.field "scenarioName" (optional string)
    requiredScenarioState := ← m.field "requiredScenarioState" (optional string)
    newScenarioState := ← m.field "newScenarioState" (optional string)
    persistent := ← m.field "persistent" (optional boolean)
    enabled := ← m.field "enabled" (orElse true boolean)
    metadata := ← m.field "metadata" (optional value)
    extra := m.others names }

def toJson (s : GraphQlStub) : Json :=
  .obj <|
    unlessEmpty "id" s.id
      ++ [("name", .str s.name), ("operationName", .str s.operationName), ("query", .str s.query)]
      ++ whenSome "variables" (s.bindings.map .str)
      ++ [("response", .str s.response)]
      ++ whenSome "priority" (s.priority.map .ofInt)
      ++ whenSome "scenarioName" (s.scenarioName.map .str)
      ++ whenSome "requiredScenarioState" (s.requiredScenarioState.map .str)
      ++ whenSome "newScenarioState" (s.newScenarioState.map .str)
      ++ whenSome "persistent" (s.persistent.map .bool)
      ++ [("enabled", .bool s.enabled)]
      ++ whenSome "metadata" s.metadata
      ++ s.extra.entries

instance : Record GraphQlStub where
  shape := .record (names.map (·, .any)) true
  ofJson? := ofJson?
  toJson := toJson

end GraphQlStub

end StubConsole
