import StubConsole.Url.Basic
import StubConsole.Validation

/-!
# Outgoing — the request that a stub describes

A stub can be tried: its pattern is turned into a request to the mock server.  The address is a
literal one of the stub, headers and parameters take sample values of their rules, and the body
is the first literal one of the body matchers.

* `Outgoing` — a request to be sent;
* `OutgoingError` — why a stub describes none;
* `addressOf` — the address for a base, a path and parameters;
* `Stub.outgoing`, `GraphQlStub.outgoing`, `SoapStub.outgoing` — the requests.
-/

namespace StubConsole

inductive HttpMethod where
  | get
  | post
  | put
  | patch
  | delete
  | head
  | options
  deriving DecidableEq, Repr

namespace HttpMethod

def all : List HttpMethod := [.get, .post, .put, .patch, .delete, .head, .options]

def name : HttpMethod → String
  | .get => "GET"
  | .post => "POST"
  | .put => "PUT"
  | .patch => "PATCH"
  | .delete => "DELETE"
  | .head => "HEAD"
  | .options => "OPTIONS"

/-- The capital form of a character, for those whose capital form is ASCII; others are left as
they are. -/
def capital (c : Char) : List Char :=
  if c.toNat < 0x80 then [c.toUpper]
  else if c.toNat = 0x131 then ['I']
  else if c.toNat = 0x17F then ['S']
  else if c.toNat = 0xDF then ['S', 'S']
  else if c.toNat = 0xFB00 then ['F', 'F']
  else if c.toNat = 0xFB01 then ['F', 'I']
  else if c.toNat = 0xFB02 then ['F', 'L']
  else if c.toNat = 0xFB03 then ['F', 'F', 'I']
  else if c.toNat = 0xFB04 then ['F', 'F', 'L']
  else if c.toNat = 0xFB05 || c.toNat = 0xFB06 then ['S', 'T']
  else [c]

/-- The method a text names in capital or small letters; any other text stands for GET. -/
def ofText (text : String) : HttpMethod :=
  let capitals := String.ofList (text.toList.flatMap capital)
  (all.find? fun m => m.name == capitals).getD .get

end HttpMethod

structure Outgoing where
  method : HttpMethod
  url : String
  headers : List (String × String)
  body : Option String
  deriving DecidableEq, Repr

inductive OutgoingError where
  | noUrl
  | regexUrl (kind : UrlKind)
  | bindingsNotJson
  | badUrl (cause : UrlError)
  deriving DecidableEq, Repr

def OutgoingError.message : OutgoingError → String
  | .noUrl => "Stub has no URL to execute"
  | .regexUrl kind =>
      "Cannot execute a " ++ kind.label ++ " match; switch to a literal URL to try it"
  | .bindingsNotJson => DraftFault.bindingsNotJson.message
  | .badUrl cause => "Invalid URL: " ++ cause.message

/-! ## Addresses -/

def dropSlashesEnd (s : List Char) : List Char :=
  (s.reverse.dropWhile (· = '/')).reverse

/-- The base without slashes at its end, and the path with one at its start. -/
def joinPath (base path : List Char) : List Char :=
  dropSlashesEnd base ++ if path.isEmpty || path.head? = some '/' then path else '/' :: path

/-- The address for a path at a base; parameters without a value are left out. -/
def addressOf (base path : String) (parameters : SortedMap String) : Except UrlError Url := do
  let url ← Url.parse (joinPath base.toList path.toList)
  return (parameters.entries.filter fun p => p.2 ≠ "").foldl
    (fun url p => url.appendPair p.1 p.2) url

def urlText (base path : String) (parameters : SortedMap String) :
    Except OutgoingError String :=
  match addressOf base path parameters with
  | .ok url => .ok (String.ofList url.text)
  | .error cause => .error (.badUrl cause)

/-! ## Requests -/

/-- The sample values of rules that have one. -/
def samples (rules : SortedMap MatchRule) : SortedMap String :=
  (rules.filter fun _ rule => rule.sample?.isSome).map fun rule => rule.sample?.getD ""

def BodyMatcher.Kind.isLiteral : BodyMatcher.Kind → Bool
  | .equalToJson | .equalTo | .contains => true
  | .matchesJsonPath | .matchesRegex | .matchesXPath => false

def Stub.outgoing (s : Stub) (base : String) : Except OutgoingError Outgoing :=
  match s.request.urlMatch? with
  | none => .error .noUrl
  | some (kind, value) =>
      if value = "" then .error .noUrl
      else if kind.isRegex then .error (.regexUrl kind)
      else do
        let url ← urlText base value (samples s.request.queryParameters)
        return {
          method := .ofText s.request.method
          url
          headers := (samples s.request.headers).entries
          body := (s.request.bodyMatchers.find? fun m => m.kind.isLiteral).map (·.value) }

def GraphQlStub.outgoing (s : GraphQlStub) (base : String) : Except OutgoingError Outgoing := do
  let bindings ← match s.givenVariables? with
    | none => Except.ok (Json.obj [])
    | some text =>
        match Json.parse? text with
        | some doc => Except.ok doc
        | none => .error .bindingsNotJson
  let body := Json.obj [("query", .str s.query), ("operationName", .str s.operationName),
    ("variables", bindings)]
  let url ← urlText base "/graphql" ∅
  return ⟨.post, url, [("Content-Type", "application/json")], some body.compact⟩

def SoapStub.outgoing (s : SoapStub) (base : String) : Except OutgoingError Outgoing := do
  let url ← urlText base "/__admin/soap" ∅
  return ⟨.post, url,
    [("Content-Type", s.soapVersion.contentType), ("SOAPAction", s.soapAction)],
    some s.request⟩

end StubConsole
