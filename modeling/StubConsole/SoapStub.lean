import StubConsole.Stub.Codec
import StubConsole.Text.Lines

/-!
# SoapStub — a stub for one SOAP action

Namespaces and XPath matchers travel as JSON text inside the document.  `namespaces?` and
`matchers?` are the tables in these texts, if they can be read; a blank text is an empty table.
-/

namespace StubConsole

open Rule Members

/-! ## Versions and matchers -/

inductive SoapVersion where
  | v11
  | v12
  deriving DecidableEq, Repr

namespace SoapVersion

def all : List SoapVersion := [.v11, .v12]

def name : SoapVersion → String
  | .v11 => "1.1"
  | .v12 => "1.2"

def toggle : SoapVersion → SoapVersion
  | .v11 => .v12
  | .v12 => .v11

/-- What a client of this version sends as content type. -/
def contentType : SoapVersion → String
  | .v11 => "text/xml; charset=utf-8"
  | .v12 => "application/soap+xml; charset=utf-8"

end SoapVersion

inductive XPathMatcher.Kind where
  | equalTo
  | contains
  | matchesRegex
  deriving DecidableEq, Repr

namespace XPathMatcher.Kind

def all : List XPathMatcher.Kind := [.equalTo, .contains, .matchesRegex]

def name : XPathMatcher.Kind → String
  | .equalTo => "equalTo"
  | .contains => "contains"
  | .matchesRegex => "matches"

def ofName? (s : String) : Option XPathMatcher.Kind :=
  all.find? fun k => k.name == s

end XPathMatcher.Kind

structure XPathMatcher where
  xpath : String
  expectedValue : String
  kind : XPathMatcher.Kind
  deriving DecidableEq, Repr

namespace XPathMatcher

def names : List String := ["xpath", "expectedValue", "matchType"]

def ofJson? (doc : Json) : Option XPathMatcher := do
  let m ← ofObjectOrArray? names 0 doc
  return {
    xpath := ← m.field "xpath" (orElse "" string)
    expectedValue := ← m.field "expectedValue" (orElse "" string)
    kind := ← m.field "matchType" (orElse .equalTo (choice Kind.all Kind.name)) }

def toJson (m : XPathMatcher) : Json :=
  .obj [("xpath", .str m.xpath), ("expectedValue", .str m.expectedValue),
    ("matchType", .str m.kind.name)]

instance : Record XPathMatcher where
  shape := .record (names.map (·, .any)) false
  ofJson? := ofJson?
  toJson := toJson

end XPathMatcher

instance : Record (SortedMap String) where
  shape := .any
  ofJson? := table string
  toJson := ofTable .str

/-! ## Stubs -/

structure SoapStub where
  /-- Empty as long as the stub was never saved. -/
  id : String
  name : String
  request : String
  response : String
  priority : Option Int
  scenario : Option ScenarioRef
  persistent : Option Bool
  enabled : Option Bool
  metadata : Option Json
  soapAction : String
  soapVersion : SoapVersion
  wsdlUrl : Option String
  xmlNamespaces : String
  xpathMatchers : String
  /-- Members that the console does not model; they are written back as they came. -/
  extra : SortedMap Json
  deriving DecidableEq, Repr

namespace SoapStub

/-- An envelope with one element in its body. -/
def envelope (element : List String) : String :=
  Text.join "\n" <|
    ["<?xml version=\"1.0\" encoding=\"UTF-8\"?>",
     "<soap:Envelope xmlns:soap=\"http://schemas.xmlsoap.org/soap/envelope/\">",
     "  <soap:Body>"]
      ++ element.map ("    " ++ ·)
      ++ ["  </soap:Body>", "</soap:Envelope>"]

def sampleRequest : String :=
  envelope ["<Request xmlns=\"http://example.com/soap\">", "  <Input>Example</Input>",
    "</Request>"]

def sampleResponse : String :=
  envelope ["<Response xmlns=\"http://example.com/soap\">", "  <Result>Success</Result>",
    "</Response>"]

def sampleNamespaces : SortedMap String :=
  SortedMap.ofList
    [("soap", "http://schemas.xmlsoap.org/soap/envelope/"), ("ns1", "http://example.com/soap")]

/-- The draft that a new stub starts from. -/
def fresh : SoapStub where
  id := ""
  name := "New SOAP Stub"
  request := sampleRequest
  response := sampleResponse
  priority := some 0
  scenario := none
  persistent := some false
  enabled := some true
  metadata := none
  soapAction := ""
  soapVersion := .v11
  wsdlUrl := none
  xmlNamespaces := Record.write sampleNamespaces
  xpathMatchers := "[]"
  extra := ∅

instance : Inhabited SoapStub := ⟨fresh⟩

def isNew (s : SoapStub) : Bool := s.id = ""

def isEnabled (s : SoapStub) : Bool := s.enabled.getD true

/-! ## Tables -/

def namespaces? (s : SoapStub) : Option (SortedMap String) :=
  if Text.allBlank s.xmlNamespaces then some ∅ else Record.read? s.xmlNamespaces

def setNamespaces (s : SoapStub) (table : SortedMap String) : SoapStub :=
  { s with xmlNamespaces := Record.write table }

def matchers? (s : SoapStub) : Option (List XPathMatcher) :=
  if Text.allBlank s.xpathMatchers then some [] else Record.read? s.xpathMatchers

def setMatchers (s : SoapStub) (matchers : List XPathMatcher) : SoapStub :=
  { s with xpathMatchers := Record.write matchers }

/-! ## Written form -/

def fields : List (String × Json.Shape) :=
  [("id", .any), ("name", .any), ("request", .any), ("response", .any), ("priority", .any),
   ("scenario", ScenarioRef.shape), ("persistent", .any), ("enabled", .any), ("metadata", .any),
   ("soapAction", .any), ("soapVersion", .any), ("wsdlUrl", .any), ("xmlNamespaces", .any),
   ("xpathMatchers", .any)]

def names : List String := fields.map (·.1)

def ofJson? (doc : Json) : Option SoapStub := do
  let m ← ofObject? doc
  return {
    id := ← m.field "id" ident
    name := ← m.field "name" text
    request := ← m.field "request" text
    response := ← m.field "response" text
    priority := ← m.field "priority" (optional int32)
    scenario := ← m.field "scenario" (optional ScenarioRef.ofJson?)
    persistent := ← m.field "persistent" (optional boolean)
    enabled := ← m.field "enabled" (optional boolean)
    metadata := ← m.field "metadata" (optional value)
    soapAction := ← m.field "soapAction" text
    soapVersion := ← m.field "soapVersion" (orElse .v11 (choice SoapVersion.all SoapVersion.name))
    wsdlUrl := ← m.field "wsdlUrl" (optional string)
    xmlNamespaces := ← m.field "xmlNamespaces" text
    xpathMatchers := ← m.field "xpathMatchers" text
    extra := m.others names }

def toJson (s : SoapStub) : Json :=
  .obj <|
    unlessEmpty "id" s.id
      ++ [("name", .str s.name), ("request", .str s.request), ("response", .str s.response)]
      ++ whenSome "priority" (s.priority.map .ofInt)
      ++ whenSome "scenario" (s.scenario.map ScenarioRef.toJson)
      ++ whenSome "persistent" (s.persistent.map .bool)
      ++ whenSome "enabled" (s.enabled.map .bool)
      ++ whenSome "metadata" s.metadata
      ++ [("soapAction", .str s.soapAction), ("soapVersion", .str s.soapVersion.name)]
      ++ whenSome "wsdlUrl" (s.wsdlUrl.map .str)
      ++ [("xmlNamespaces", .str s.xmlNamespaces), ("xpathMatchers", .str s.xpathMatchers)]
      ++ s.extra.entries

instance : Record SoapStub where
  shape := .record fields true
  ofJson? := ofJson?
  toJson := toJson

end SoapStub

end StubConsole
