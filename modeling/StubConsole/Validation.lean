import StubConsole.GraphQlStub
import StubConsole.SoapStub

/-!
# Validation — what keeps a draft from being saved

Drafts are checked before anything is sent.  A check names every fault it finds, in the order in
which the editor shows them.

* `DraftFault` — the faults, with their wording in `DraftFault.message`;
* `Stub.faults`, `GraphQlStub.faults`, `SoapStub.faults` — the checks of typed drafts;
* `checkDocument` — the check of a REST draft that is a JSON text.
-/

namespace StubConsole

inductive DraftFault where
  | nameMissing
  | methodMissing
  | urlMissing
  | statusMissing
  | statusOutOfRange
  | operationNameMissing
  | queryMissing
  | queryWithoutOperation
  | responseMissing
  | responseWithoutResult
  | responseNotJson
  | bindingsNotJson
  | actionMissing
  | requestXmlMissing
  | requestXmlNoEnvelope
  | responseXmlMissing
  | responseXmlNoEnvelope
  | namespacesNotJson
  | matchersNotJson
  | notJson
  | keysMissing
  deriving DecidableEq, Repr

def DraftFault.message : DraftFault → String
  | .nameMissing => "Name is required"
  | .methodMissing => "HTTP method is required"
  | .urlMissing => "URL pattern or path is required"
  | .statusMissing => "Response status is required"
  | .statusOutOfRange => "Response status must be between 100 and 599"
  | .operationNameMissing => "Operation name is required"
  | .queryMissing => "Query is required"
  | .queryWithoutOperation => "Query must contain a query, mutation, or subscription operation"
  | .responseMissing => "Response is required"
  | .responseWithoutResult => "Response must contain a \"data\" or \"errors\" field"
  | .responseNotJson => "Response must be valid JSON"
  | .bindingsNotJson => "Variables must be valid JSON"
  | .actionMissing => "SOAP Action is required"
  | .requestXmlMissing => "Request XML is required"
  | .requestXmlNoEnvelope => "Request XML must be a SOAP envelope with a Body"
  | .responseXmlMissing => "Response XML is required"
  | .responseXmlNoEnvelope => "Response XML must be a SOAP envelope with a Body"
  | .namespacesNotJson => "XML Namespaces must be valid JSON"
  | .matchersNotJson => "XPath Matchers must be valid JSON"
  | .notJson => "Invalid JSON format"
  | .keysMissing => "Stub must have name, request, and response properties"

/-- The fault, if the condition for it holds. -/
def DraftFault.when (fault : DraftFault) (condition : Bool) : List DraftFault :=
  if condition then [fault] else []

/-! ## REST -/

def Stub.statusFaults (status : Nat) : List DraftFault :=
  if status = 0 then [.statusMissing]
  else if 100 ≤ status && status ≤ 599 then []
  else [.statusOutOfRange]

def Stub.faults (s : Stub) : List DraftFault :=
  DraftFault.nameMissing.when (Text.allBlank s.name)
    ++ DraftFault.methodMissing.when (Text.allBlank s.request.method)
    ++ DraftFault.urlMissing.when (!s.request.hasUrl)
    ++ statusFaults s.response.status

/-- The members without which a document is no stub. -/
def neededKeys : List String := ["name", "request", "response"]

/-- The document of a text that has the needed members, none of them null, false, zero or empty. -/
def checkDocument (text : String) : Except DraftFault Json :=
  match Json.parse? text with
  | none => .error .notJson
  | some doc =>
      if neededKeys.all fun key => (doc.get? key).any Json.truthy then .ok doc
      else .error .keysMissing

/-! ## GraphQL -/

def GraphQlStub.queryFaults (query : String) : List DraftFault :=
  if Text.allBlank query then [.queryMissing]
  else
    DraftFault.queryWithoutOperation.when
      (!GraphQlStub.operationKeywords.any fun keyword => Text.contains query keyword)

def GraphQlStub.responseFaults (response : String) : List DraftFault :=
  if Text.allBlank response then [.responseMissing]
  else
    match Json.parse? response with
    | none => [.responseNotJson]
    | some doc =>
        DraftFault.responseWithoutResult.when
          ((doc.get? "data").isNone && (doc.get? "errors").isNone)

/-- The variables that are given, none if their text is blank. -/
def GraphQlStub.givenVariables? (s : GraphQlStub) : Option String :=
  s.bindings.filter fun v => !Text.allBlank v

def GraphQlStub.faults (s : GraphQlStub) : List DraftFault :=
  DraftFault.nameMissing.when (Text.allBlank s.name)
    ++ DraftFault.operationNameMissing.when (Text.allBlank s.operationName)
    ++ queryFaults s.query
    ++ responseFaults s.response
    ++ DraftFault.bindingsNotJson.when (s.givenVariables?.any fun v => (Json.parse? v).isNone)

/-! ## SOAP -/

/-- What may stand before the name of an envelope or a body. -/
def soapPrefixes : List String := ["soap:", "soapenv:", "SOAP-ENV:", "env:", ""]

def openingTags (name : String) : List String :=
  soapPrefixes.map fun p => "<" ++ p ++ name

/-- The text opens with a declaration or an envelope, and mentions an envelope and a body.  This
does not parse the text. -/
def looksLikeEnvelope (xml : String) : Bool :=
  let text := Text.trimStart xml
  ("<?xml" :: openingTags "Envelope").any (Text.beginsWith text)
    && (openingTags "Envelope").any (Text.contains text)
    && (openingTags "Body").any (Text.contains text)

def SoapStub.xmlFaults (missing noEnvelope : DraftFault) (xml : String) : List DraftFault :=
  if Text.allBlank xml then [missing] else noEnvelope.when (!looksLikeEnvelope xml)

def SoapStub.faults (s : SoapStub) : List DraftFault :=
  DraftFault.nameMissing.when (Text.allBlank s.name)
    ++ DraftFault.actionMissing.when (Text.allBlank s.soapAction)
    ++ xmlFaults .requestXmlMissing .requestXmlNoEnvelope s.request
    ++ xmlFaults .responseXmlMissing .responseXmlNoEnvelope s.response
    ++ DraftFault.namespacesNotJson.when s.namespaces?.isNone
    ++ DraftFault.matchersNotJson.when s.matchers?.isNone

end StubConsole
