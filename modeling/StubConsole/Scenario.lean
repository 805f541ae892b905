import StubConsole.Json.Record

/-!
# Scenario — the server's view of one scenario

A scenario is a state machine that stubs share: its current state and the states its stubs name.
-/

namespace StubConsole

open Rule Members

structure Scenario where
  id : String
  name : String
  state : String
  possibleStates : List String
  deriving DecidableEq, Repr

namespace Scenario

def names : List String := ["id", "name", "state", "possibleStates"]

def ofJson? (doc : Json) : Option Scenario := do
  let m ← ofObjectOrArray? names 0 doc
  return {
    id := ← m.field "id" ident
    name := ← m.field "name" text
    state := ← m.field "state" text
    possibleStates := ← m.field "possibleStates" (orElse [] (list string)) }

def toJson (s : Scenario) : Json :=
  .obj [("id", .str s.id), ("name", .str s.name), ("state", .str s.state),
    ("possibleStates", .arr (s.possibleStates.map .str))]

instance : Record Scenario where
  shape := .record (names.map (·, .any)) false
  ofJson? := ofJson?
  toJson := toJson

end Scenario

end StubConsole
