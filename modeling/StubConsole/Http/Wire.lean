import StubConsole.Outgoing
import StubConsole.Text.Lowercase

/-!
# Wire — a request as a server receives it

Not every request can be sent: the address has to be one of a web server, and the headers have to
be well formed.  The fragment of the address stays behind.
-/

namespace StubConsole

structure WireRequest where
  method : HttpMethod
  /-- Scheme and server of the address. -/
  origin : String
  /-- Path and query. -/
  target : String
  /-- Header names are in small letters. -/
  headers : List (String × String)
  body : String
  deriving DecidableEq, Repr

namespace WireRequest

/-- A character that may stand in the name of a header. -/
def isTokenChar (c : Char) : Bool :=
  c.isAlphanum || "!#$%&\x27*+-.^_\x60|~".toList.contains c

def isToken (name : String) : Bool :=
  name ≠ "" && name.toList.all isTokenChar

/-- No control character but the tab may stand in the value of a header. -/
def isHeaderValue (value : String) : Bool :=
  value.toList.all fun c => c = '\t' || (c.toNat ≥ 0x20 && c.toNat ≠ 0x7F)

def isWebScheme (scheme : List Char) : Bool :=
  scheme = "http".toList || scheme = "https".toList

def originText (url : Url) : List Char :=
  url.scheme ++ "://".toList ++ match url.authority with
    | some a => Url.Authority.text { a with username := [], password := none }
    | none => []

def targetText (url : Url) : List Char :=
  url.path ++ match url.query with
    | some query => '?' :: query
    | none => []

end WireRequest

/-- The request on its way; nothing if it cannot be sent. -/
def Outgoing.onWire? (r : Outgoing) : Option WireRequest :=
  match Url.parse r.url.toList with
  | .error _ => none
  | .ok url =>
      if WireRequest.isWebScheme url.scheme
          && r.headers.all fun h => WireRequest.isToken h.1 && WireRequest.isHeaderValue h.2 then
        some {
          method := r.method
          origin := String.ofList (WireRequest.originText url)
          target := String.ofList (WireRequest.targetText url)
          headers := r.headers.map fun h => (String.ofList (h.1.toList.map Char.toLower), h.2)
          body := r.body.getD "" }
      else none

end StubConsole
