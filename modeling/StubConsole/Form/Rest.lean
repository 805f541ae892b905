import StubConsole.Choices
import StubConsole.Form.Rows

/-!
# Rest — the form of a REST stub

Of the rules for headers and query parameters the form edits those with a plain value as rows; all
others stay as they are, and a hint names them.
-/

namespace StubConsole

open Rows

inductive RestField where
  | method
  | urlKind
  | urlValue
  | requestHeaders
  | queryParams
  | bodyPatterns
  | status
  | responseHeaders
  | body
  | delay
  | fault
  | scenarioName
  | requiredState
  | newState
  | name
  | priority
  | persistent
  | enabled
  | metadata
  deriving DecidableEq, Repr

namespace RestField

def onTab : FormTab → List RestField
  | .request => [.method, .urlKind, .urlValue, .requestHeaders, .queryParams, .bodyPatterns]
  | .response => [.status, .responseHeaders, .body, .delay, .fault]
  | .scenarios => [.scenarioName, .requiredState, .newState]
  | .advanced => [.name, .priority, .persistent, .enabled, .metadata]

def label : RestField → String
  | .method => "Method"
  | .urlKind => "URL Match"
  | .urlValue => "URL"
  | .requestHeaders => "Headers (name=value)"
  | .queryParams => "Query Params (name=value)"
  | .bodyPatterns => "Body Patterns (kind:value)"
  | .status => "Status"
  | .responseHeaders => "Headers (name=value)"
  | .body => "Body"
  | .delay => "Fixed Delay (ms)"
  | .fault => "Fault"
  | .scenarioName => "Scenario"
  | .requiredState => "Required State"
  | .newState => "New State"
  | .name => "Name"
  | .priority => "Priority"
  | .persistent => "Persistent"
  | .enabled => "Enabled"
  | .metadata => "Metadata (JSON)"

def kind : RestField → FieldKind
  | .method | .urlKind | .fault => .cycle
  | .persistent | .enabled => .toggle
  | .requestHeaders | .queryParams | .bodyPatterns | .responseHeaders | .body | .metadata =>
      .multiline
  | .urlValue | .status | .delay | .scenarioName | .requiredState | .newState | .name
  | .priority => .line

end RestField

/-! ## Rules as rows -/

/-- The rules with a plain value, as rows. -/
def plainRows (rules : SortedMap MatchRule) : String :=
  writePairs <| rules.entries.filterMap fun e => e.2.equalTo.map (e.1, ·)

/-- The rules with their plain ones replaced by those of the rows. -/
def replacePlainRows (rules : SortedMap MatchRule) (text : String) :
    Except FieldError (SortedMap MatchRule) := do
  let rows ← readPairs text
  let others := rules.filter fun _ rule => rule.equalTo.isNone
  return others.insertMany (rows.map fun row => (row.1, MatchRule.ofValue row.2))

/-- Names the rules that are no rows. -/
def otherRulesHint (rules : SortedMap MatchRule) : Option String :=
  let others := rules.entries.filter fun e => e.2.equalTo.isNone
  if others.isEmpty then none
  else some ("JSON mode only: " ++ Text.join ", " (others.map fun e => e.1 ++ " " ++ e.2.describe))

/-! ## Body matchers as rows -/

def readBodyMatcher (row : List Char) : Except FieldError BodyMatcher :=
  match Text.splitAt? ':' row with
  | none => .error (.noBodyRow (String.ofList row))
  | some (key, value) =>
      match BodyMatcher.Kind.ofKey? (trimmed key) with
      | none => .error (.unknownBodyKind (trimmed key))
      | some kind => .ok ⟨kind, trimmed value⟩

def readBodyMatchers (text : String) : Except FieldError (List BodyMatcher) :=
  readRows readBodyMatcher text

def writeBodyMatchers (matchers : List BodyMatcher) : String :=
  Text.join "\n" (matchers.map fun m => m.kind.key ++ ":" ++ m.value)

/-! ## The form -/

namespace Stub

/-- The methods that the form steps through. -/
def methods : List String :=
  ["GET", "POST", "PUT", "DELETE", "PATCH", "HEAD", "OPTIONS", "ANY"]

/-- The method behind the given one; the first one behind the last and behind any other text. -/
def nextMethod (method : String) : String :=
  (successor? method methods).getD "GET"

def fieldValue (s : Stub) : RestField → String
  | .method => s.request.method
  | .urlKind => s.request.urlKind.label
  | .urlValue => s.request.urlValue
  | .requestHeaders => plainRows s.request.headers
  | .queryParams => plainRows s.request.queryParameters
  | .bodyPatterns => writeBodyMatchers s.request.bodyMatchers
  | .status => if s.response.status = 0 then "" else Text.ofNat s.response.status
  | .responseHeaders => writePairs s.response.headers.entries
  | .body => s.response.body.getD ""
  | .delay => natText s.response.fixedDelayMilliseconds
  | .fault => (s.response.fault.map ResponseFault.label).getD "None"
  | .scenarioName => s.scenarioName
  | .requiredState => s.requiredScenarioState.getD ""
  | .newState => s.newScenarioState.getD ""
  | .name => s.name
  | .priority => intText s.priority
  | .persistent => yesNo (s.persistent.getD false)
  | .enabled => yesNo s.isEnabled
  | .metadata => writeMetadata s.metadata

def cycleField (s : Stub) : RestField → Stub
  | .method => { s with request := { s.request with method := nextMethod s.request.method } }
  | .urlKind => { s with request := s.request.setUrlKind s.request.urlKind.next }
  | .fault => { s with response.fault := ResponseFault.cycle s.response.fault }
  | .persistent => { s with persistent := some (!s.persistent.getD false) }
  | .enabled => { s with enabled := some (!s.isEnabled) }
  | _ => s

def setField (s : Stub) (field : RestField) (text : String) : Except FieldError Stub :=
  let withRequest := fun (r : RequestPattern) => { s with request := r }
  let withResponse := fun (r : ResponseDefinition) => { s with response := r }
  match field with
  | .urlValue => return withRequest (s.request.setUrlValue (Text.trim text))
  | .requestHeaders => do
      return withRequest { s.request with headers := ← replacePlainRows s.request.headers text }
  | .queryParams => do
      return withRequest
        { s.request with queryParameters := ← replacePlainRows s.request.queryParameters text }
  | .bodyPatterns => do
      return withRequest { s.request with bodyMatchers := ← readBodyMatchers text }
  | .status => do
      let status ← optionalNumber (Text.natUpTo? 65535) .badStatus text
      return withResponse { s.response with status := status.getD 0 }
  | .responseHeaders => do
      return withResponse { s.response with headers := ← readTable text }
  | .body => return withResponse { s.response with body := if text = "" then none else some text }
  | .delay => do
      let delay ← optionalNumber (Text.natUpTo? Json.maxWord) .badDelay text
      return withResponse { s.response with fixedDelayMilliseconds := delay }
  | .scenarioName => return s.setScenarioName (Text.trim text)
  | .requiredState => return { s with requiredScenarioState := optionalText text }
  | .newState => return { s with newScenarioState := optionalText text }
  | .name => return { s with name := Text.trim text }
  | .priority => return { s with priority := ← readPriority text }
  | .metadata => return { s with metadata := ← readMetadata text }
  | .method | .urlKind | .fault | .persistent | .enabled => return s.cycleField field

def fieldHint (s : Stub) : RestField → Option String
  | .requestHeaders => otherRulesHint s.request.headers
  | .queryParams => otherRulesHint s.request.queryParameters
  | .bodyPatterns => some ("kinds: " ++ Text.join ", " (BodyMatcher.Kind.all.map (·.key)))
  | _ => none

instance : Form Stub RestField where
  noun := "stub"
  fields := RestField.onTab
  label := RestField.label
  kind := RestField.kind
  value := fieldValue
  setValue := setField
  cycle := cycleField
  hint := fieldHint
  id := Stub.id
  setId s id := { s with id }
  displayName := Stub.name
  faults := Stub.faults

end Stub

end StubConsole
