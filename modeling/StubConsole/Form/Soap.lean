import StubConsole.Form.Rows

/-!
# Soap — the form of a SOAP stub

The tables for namespaces and matchers are shown as rows.  A table that cannot be read is shown as
the text it is, so that the user can see what is wrong with it.
-/

namespace StubConsole

open Rows

inductive SoapField where
  | soapAction
  | version
  | wsdlUrl
  | requestXml
  | namespaces
  | xPathMatchers
  | responseXml
  | scenarioName
  | scenarioState
  | name
  | priority
  | persistent
  | enabled
  | metadata
  deriving DecidableEq, Repr

namespace SoapField

def onTab : FormTab → List SoapField
  | .request => [.soapAction, .version, .wsdlUrl, .requestXml, .namespaces, .xPathMatchers]
  | .response => [.responseXml]
  | .scenarios => [.scenarioName, .scenarioState]
  | .advanced => [.name, .priority, .persistent, .enabled, .metadata]

def label : SoapField → String
  | .soapAction => "SOAP Action"
  | .version => "SOAP Version"
  | .wsdlUrl => "WSDL URL"
  | .requestXml => "Request XML"
  | .namespaces => "XML Namespaces (prefix=uri)"
  | .xPathMatchers => "XPath Matchers (matchType|xpath|expected)"
  | .responseXml => "Response XML"
  | .scenarioName => "Scenario"
  | .scenarioState => "Scenario State"
  | .name => "Name"
  | .priority => "Priority"
  | .persistent => "Persistent"
  | .enabled => "Enabled"
  | .metadata => "Metadata (JSON)"

def kind : SoapField → FieldKind
  | .version => .cycle
  | .persistent | .enabled => .toggle
  | .requestXml | .responseXml | .namespaces | .xPathMatchers | .metadata => .multiline
  | .soapAction | .wsdlUrl | .scenarioName | .scenarioState | .name | .priority => .line

end SoapField

/-! ## Matchers as rows -/

/-- `matchType|xpath|expected`; the match type may be left out. -/
def readXPathMatcher (row : List Char) : Except FieldError XPathMatcher :=
  match (Text.splitUpTo '|' 2 row).map trimmed with
  | [name, xpath, expected] =>
      match XPathMatcher.Kind.ofName? name with
      | some kind => .ok ⟨xpath, expected, kind⟩
      | none => .error (.unknownMatchType name)
  | [xpath, expected] => .ok ⟨xpath, expected, .equalTo⟩
  | _ => .error (.noMatcherRow (String.ofList row))

def readXPathMatchers (text : String) : Except FieldError (List XPathMatcher) :=
  readRows readXPathMatcher text

def writeXPathMatchers (matchers : List XPathMatcher) : String :=
  Text.join "\n" (matchers.map fun m => m.kind.name ++ "|" ++ m.xpath ++ "|" ++ m.expectedValue)

/-! ## The form -/

namespace SoapStub

def namespacesText (s : SoapStub) : String :=
  match s.namespaces? with
  | some table => writePairs table.entries
  | none => s.xmlNamespaces

def matchersText (s : SoapStub) : String :=
  match s.matchers? with
  | some matchers => writeXPathMatchers matchers
  | none => s.xpathMatchers

def fieldValue (s : SoapStub) : SoapField → String
  | .soapAction => s.soapAction
  | .version => s.soapVersion.name
  | .wsdlUrl => s.wsdlUrl.getD ""
  | .requestXml => s.request
  | .namespaces => s.namespacesText
  | .xPathMatchers => s.matchersText
  | .responseXml => s.response
  | .scenarioName => (s.scenario.map (·.name)).getD ""
  | .scenarioState => (s.scenario.bind (·.state)).getD ""
  | .name => s.name
  | .priority => intText s.priority
  | .persistent => yesNo (s.persistent.getD false)
  | .enabled => yesNo s.isEnabled
  | .metadata => writeMetadata s.metadata

def cycleField (s : SoapStub) : SoapField → SoapStub
  | .version => { s with soapVersion := s.soapVersion.toggle }
  | .persistent => { s with persistent := some (!s.persistent.getD false) }
  | .enabled => { s with enabled := some (!s.isEnabled) }
  | _ => s

/-- Moves the stub to another scenario; the state of the old one is kept as long as there is a
scenario at all. -/
def setScenarioName (s : SoapStub) (name : Option String) : SoapStub :=
  match name, s.scenario with
  | none, _ => { s with scenario := none }
  | some name, some scenario => { s with scenario := some { scenario with name } }
  | some name, none => { s with scenario := some ⟨name, none⟩ }

def setScenarioState (s : SoapStub) (text : String) : Except FieldError SoapStub :=
  match s.scenario with
  | some scenario => .ok { s with scenario := some { scenario with state := optionalText text } }
  | none => if Text.allBlank text then .ok s else .error .noScenario

def setField (s : SoapStub) (field : SoapField) (text : String) : Except FieldError SoapStub :=
  match field with
  | .soapAction => return { s with soapAction := Text.trim text }
  | .wsdlUrl => return { s with wsdlUrl := optionalText text }
  | .requestXml => return { s with request := text }
  | .namespaces => return s.setNamespaces (← readTable text)
  | .xPathMatchers => return s.setMatchers (← readXPathMatchers text)
  | .responseXml => return { s with response := text }
  | .scenarioName => return s.setScenarioName (optionalText text)
  | .scenarioState => s.setScenarioState text
  | .name => return { s with name := Text.trim text }
  | .priority => return { s with priority := ← readPriority text }
  | .metadata => return { s with metadata := ← readMetadata text }
  | .version | .persistent | .enabled => return s.cycleField field

def fieldHint : SoapField → Option String
  | .wsdlUrl => some "press v to validate"
  | .xPathMatchers => some "match types: equalTo, contains, matches"
  | _ => none

instance : Form SoapStub SoapField where
  noun := "SOAP stub"
  fields := SoapField.onTab
  label := SoapField.label
  kind := SoapField.kind
  value := fieldValue
  setValue := setField
  cycle := cycleField
  hint _ := fieldHint
  id := SoapStub.id
  setId s id := { s with id }
  displayName := SoapStub.name
  faults := SoapStub.faults

end SoapStub

end StubConsole
