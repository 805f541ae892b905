import StubConsole.Json.Record
import StubConsole.Stub.Basic

/-!
# Codec — stubs as documents

Members are written in a fixed order, unmodelled ones behind them in key order.  Absent options,
empty tables and empty lists are left out.
-/

namespace StubConsole

open Rule Members

/-! ## Parts of a pattern -/

namespace MatchRule

def names : List String := ["equalTo", "contains", "matches", "doesNotMatch", "absent"]

def shape : Json.Shape := .record (names.map (·, .any)) false

def ofJson? (doc : Json) : Option MatchRule := do
  let m ← ofObjectOrArray? names 5 doc
  return {
    equalTo := ← m.field "equalTo" (optional string)
    contains := ← m.field "contains" (optional string)
    matchesRegex := ← m.field "matches" (optional string)
    doesNotMatch := ← m.field "doesNotMatch" (optional string)
    absent := ← m.field "absent" (optional boolean) }

def toJson (rule : MatchRule) : Json :=
  .obj <|
    whenSome "equalTo" (rule.equalTo.map .str)
      ++ whenSome "contains" (rule.contains.map .str)
      ++ whenSome "matches" (rule.matchesRegex.map .str)
      ++ whenSome "doesNotMatch" (rule.doesNotMatch.map .str)
      ++ whenSome "absent" (rule.absent.map .bool)

end MatchRule

namespace BodyMatcher

/-- The first member, in key order, whose key names a kind; options beside it are dropped. -/
def ofJson? (doc : Json) : Option BodyMatcher :=
  match doc.sorted with
  | .obj members =>
      members.findSome? fun m =>
        (Kind.ofKey? m.1).map fun kind =>
          ⟨kind, match m.2 with | .str s => s | value => value.compact⟩
  | _ => none

def toJson (m : BodyMatcher) : Json :=
  .obj [(m.kind.key, .str m.value)]

end BodyMatcher

namespace RequestPattern

def fields : List (String × Json.Shape) :=
  [("method", .any), ("url", .any), ("urlPath", .any), ("urlPattern", .any),
   ("urlPathPattern", .any), ("headers", .each MatchRule.shape),
   ("queryParameters", .each MatchRule.shape), ("bodyPatterns", .any)]

def names : List String := fields.map (·.1)

def shape : Json.Shape := .record fields true

def ofJson? (doc : Json) : Option RequestPattern := do
  let m ← ofObject? doc
  return {
    method := ← m.field "method" text
    url := ← m.field "url" (optional string)
    urlPath := ← m.field "urlPath" (optional string)
    urlPattern := ← m.field "urlPattern" (optional string)
    urlPathPattern := ← m.field "urlPathPattern" (optional string)
    headers := ← m.field "headers" (orElse ∅ (table MatchRule.ofJson?))
    queryParameters := ← m.field "queryParameters" (orElse ∅ (table MatchRule.ofJson?))
    bodyMatchers := ← m.field "bodyPatterns" (orElse [] (list BodyMatcher.ofJson?))
    extra := m.others names }

def toJson (p : RequestPattern) : Json :=
  .obj <|
    [("method", .str p.method)]
      ++ whenSome "url" (p.url.map .str)
      ++ whenSome "urlPath" (p.urlPath.map .str)
      ++ whenSome "urlPattern" (p.urlPattern.map .str)
      ++ whenSome "urlPathPattern" (p.urlPathPattern.map .str)
      ++ unlessNoEntry "headers" MatchRule.toJson p.headers
      ++ unlessNoEntry "queryParameters" MatchRule.toJson p.queryParameters
      ++ unlessNoItem "bodyPatterns" BodyMatcher.toJson p.bodyMatchers
      ++ p.extra.entries

end RequestPattern

/-! ## Responses -/

namespace ResponseDefinition

def names : List String :=
  ["status", "statusMessage", "headers", "body", "fixedDelayMilliseconds", "fault",
   "transformers"]

def shape : Json.Shape := .record (names.map (·, .any)) true

def ofJson? (doc : Json) : Option ResponseDefinition := do
  let m ← ofObject? doc
  return {
    status := ← m.field "status" (orElse 0 Rule.status)
    statusMessage := ← m.field "statusMessage" (optional string)
    headers := ← m.field "headers" (orElse ∅ (table string))
    body := ← m.field "body" looseOption
    fixedDelayMilliseconds := ← m.field "fixedDelayMilliseconds" (optional count)
    fault := ← m.field "fault" (optional (choice ResponseFault.all ResponseFault.name))
    transformers := ← m.field "transformers" (orElse [] (list string))
    extra := m.others names }

def toJson (r : ResponseDefinition) : Json :=
  .obj <|
    [("status", .ofNat r.status)]
      ++ whenSome "statusMessage" (r.statusMessage.map .str)
      ++ unlessNoEntry "headers" .str r.headers
      ++ whenSome "body" (r.body.map .str)
      ++ whenSome "fixedDelayMilliseconds" (r.fixedDelayMilliseconds.map .ofNat)
      ++ whenSome "fault" (r.fault.map fun f => .str f.name)
      ++ unlessNoItem "transformers" .str r.transformers
      ++ r.extra.entries

end ResponseDefinition

/-! ## Stubs -/

namespace ScenarioRef

def names : List String := ["name", "state"]

def shape : Json.Shape := .record (names.map (·, .any)) false

def ofJson? (doc : Json) : Option ScenarioRef := do
  let m ← ofObjectOrArray? names 0 doc
  return {
    name := ← m.field "name" text
    state := ← m.field "state" (optional string) }

def toJson (s : ScenarioRef) : Json :=
  .obj (("name", .str s.name) :: whenSome "state" (s.state.map .str))

end ScenarioRef

namespace Stub

def fields : List (String × Json.Shape) :=
  [("id", .any), ("name", .any), ("request", RequestPattern.shape),
   ("response", ResponseDefinition.shape), ("priority", .any), ("scenario", ScenarioRef.shape),
   ("requiredScenarioState", .any), ("newScenarioState", .any), ("persistent", .any),
   ("enabled", .any), ("metadata", .any)]

def names : List String := fields.map (·.1)

def ofJson? (doc : Json) : Option Stub := do
  let m ← ofObject? doc
  return {
    id := ← m.field "id" ident
    name := ← m.field "name" text
    request := ← m.field "request" (orElse .empty RequestPattern.ofJson?)
    response := ← m.field "response" (orElse .empty ResponseDefinition.ofJson?)
    priority := ← m.field "priority" (optional int32)
    scenario := ← m.field "scenario" (optional ScenarioRef.ofJson?)
    requiredScenarioState := ← m.field "requiredScenarioState" (optional string)
    newScenarioState := ← m.field "newScenarioState" (optional string)
    persistent := ← m.field "persistent" (optional boolean)
    enabled := ← m.field "enabled" (optional boolean)
    metadata := ← m.field "metadata" (optional value)
    extra := m.others names }

def toJson (s : Stub) : Json :=
  .obj <|
    unlessEmpty "id" s.id
      ++ [("name", .str s.name), ("request", s.request.toJson), ("response", s.response.toJson)]
      ++ whenSome "priority" (s.priority.map .ofInt)
      ++ whenSome "scenario" (s.scenario.map ScenarioRef.toJson)
      ++ whenSome "requiredScenarioState" (s.requiredScenarioState.map .str)
      ++ whenSome "newScenarioState" (s.newScenarioState.map .str)
      ++ whenSome "persistent" (s.persistent.map .bool)
      ++ whenSome "enabled" (s.enabled.map .bool)
      ++ whenSome "metadata" s.metadata
      ++ s.extra.entries

instance : Record Stub where
  shape := .record fields true
  ofJson? := ofJson?
  toJson := toJson

end Stub

end StubConsole
