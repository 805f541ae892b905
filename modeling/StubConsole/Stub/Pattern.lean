import StubConsole.Json.Basic

/-!
# Pattern — which requests a stub answers

* `UrlKind` — the four ways to match an address, of which a pattern uses one;
* `MatchRule` — the test for one header or query parameter;
* `BodyMatcher` — one test for the body;
* `RequestPattern` — all tests together.
-/

namespace StubConsole

/-! ## Addresses -/

inductive UrlKind where
  | path
  | pathPattern
  | full
  | pattern
  deriving DecidableEq, Repr

namespace UrlKind

/-- All kinds, in the order in which a form steps through them. -/
def all : List UrlKind := [.path, .pathPattern, .full, .pattern]

/-- The member of a document that holds the address. -/
def fieldName : UrlKind → String
  | .path => "urlPath"
  | .pathPattern => "urlPathPattern"
  | .full => "url"
  | .pattern => "urlPattern"

def label : UrlKind → String
  | .path => "URL Path"
  | .pathPattern => "URL Path Pattern"
  | .full => "Full URL"
  | .pattern => "URL Pattern"

def next : UrlKind → UrlKind
  | .path => .pathPattern
  | .pathPattern => .full
  | .full => .pattern
  | .pattern => .path

/-- The kinds that describe many addresses and so name none to send a request to. -/
def isRegex : UrlKind → Bool
  | .pathPattern | .pattern => true
  | .path | .full => false

end UrlKind

/-! ## Rules -/

structure MatchRule where
  equalTo : Option String
  contains : Option String
  matchesRegex : Option String
  doesNotMatch : Option String
  absent : Option Bool
  deriving DecidableEq, Repr

namespace MatchRule

def none : MatchRule := ⟨.none, .none, .none, .none, .none⟩

def ofValue (value : String) : MatchRule := { none with equalTo := some value }

/-- A summary such as `equalTo "abc"`, of the first test that the rule has. -/
def describe (rule : MatchRule) : String :=
  match rule.equalTo, rule.contains, rule.matchesRegex, rule.doesNotMatch with
  | some v, _, _, _ => "equalTo \"" ++ v ++ "\""
  | _, some v, _, _ => "contains \"" ++ v ++ "\""
  | _, _, some v, _ => "matches \"" ++ v ++ "\""
  | _, _, _, some v => "doesNotMatch \"" ++ v ++ "\""
  | _, _, _, _ => if rule.absent = some true then "absent" else "any"

/-- A value that passes the rule, for a request that is to meet it. -/
def sample? (rule : MatchRule) : Option String :=
  rule.equalTo.or rule.contains

end MatchRule

/-! ## Bodies -/

inductive BodyMatcher.Kind where
  | equalToJson
  | matchesJsonPath
  | equalTo
  | contains
  | matchesRegex
  | matchesXPath
  deriving DecidableEq, Repr

namespace BodyMatcher.Kind

def all : List BodyMatcher.Kind :=
  [.equalToJson, .matchesJsonPath, .equalTo, .contains, .matchesRegex, .matchesXPath]

def key : BodyMatcher.Kind → String
  | .equalToJson => "equalToJson"
  | .matchesJsonPath => "matchesJsonPath"
  | .equalTo => "equalTo"
  | .contains => "contains"
  | .matchesRegex => "matches"
  | .matchesXPath => "matchesXPath"

def ofKey? (key : String) : Option BodyMatcher.Kind :=
  all.find? fun k => k.key == key

end BodyMatcher.Kind

structure BodyMatcher where
  kind : BodyMatcher.Kind
  value : String
  deriving DecidableEq, Repr

/-! ## Patterns -/

structure RequestPattern where
  method : String
  url : Option String
  urlPath : Option String
  urlPattern : Option String
  urlPathPattern : Option String
  headers : SortedMap MatchRule
  queryParameters : SortedMap MatchRule
  bodyMatchers : List BodyMatcher
  /-- Members that the console does not model; they are written back as they came. -/
  extra : SortedMap Json
  deriving DecidableEq, Repr

namespace RequestPattern

def empty : RequestPattern where
  method := ""
  url := none
  urlPath := none
  urlPattern := none
  urlPathPattern := none
  headers := ∅
  queryParameters := ∅
  bodyMatchers := []
  extra := ∅

instance : Inhabited RequestPattern := ⟨empty⟩

/-- The address of one kind. -/
def slot (p : RequestPattern) : UrlKind → Option String
  | .path => p.urlPath
  | .pathPattern => p.urlPathPattern
  | .full => p.url
  | .pattern => p.urlPattern

/-- The address that counts when several are given: paths go before patterns, these before
full addresses. -/
def urlMatch? (p : RequestPattern) : Option (UrlKind × String) :=
  [UrlKind.path, .pattern, .pathPattern, .full].findSome? fun kind =>
    (p.slot kind).map (kind, ·)

def urlKind (p : RequestPattern) : UrlKind :=
  (p.urlMatch?.map (·.1)).getD .path

def urlValue (p : RequestPattern) : String :=
  (p.urlMatch?.map (·.2)).getD ""

/-- The pattern with one address, of the given kind. -/
def withUrl (p : RequestPattern) (kind : UrlKind) (value : String) : RequestPattern :=
  let slotFor := fun k => if k = kind then some value else none
  { p with
    url := slotFor .full
    urlPath := slotFor .path
    urlPattern := slotFor .pattern
    urlPathPattern := slotFor .pathPattern }

/-- Another way of matching, with the address as it is. -/
def setUrlKind (p : RequestPattern) (kind : UrlKind) : RequestPattern :=
  p.withUrl kind p.urlValue

def setUrlValue (p : RequestPattern) (value : String) : RequestPattern :=
  p.withUrl p.urlKind value

/-- Some address is given and not empty. -/
def hasUrl (p : RequestPattern) : Bool :=
  UrlKind.all.any fun kind => (p.slot kind).any fun v => v ≠ ""

/-- The address that lists show and searches look at. -/
def displayUrl (p : RequestPattern) : String :=
  ((p.urlPath.filter fun v => v ≠ "").or (p.urlPattern.filter fun v => v ≠ "")).getD "/"

def setHeader (p : RequestPattern) (name value : String) : RequestPattern :=
  { p with headers := p.headers.insert name (MatchRule.ofValue value) }

def setQueryParameter (p : RequestPattern) (name value : String) : RequestPattern :=
  { p with queryParameters := p.queryParameters.insert name (MatchRule.ofValue value) }

end RequestPattern

end StubConsole
