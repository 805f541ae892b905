import StubConsole.Text.Lines
import StubConsole.Text.Integer

/-!
# ApiError — why a call to the admin API failed

* `ApiError` — no answer, an answer with an error status, or an answer that cannot be read;
* `ApiError.text` — the wording;
* `ApiError.failureMessage` — the wording with what was tried, unless it already says so.
-/

namespace StubConsole

inductive ApiError where
  | transport (detail : String)
  | server (status : Nat) (message : String)
  | decode (detail : String)
  deriving DecidableEq, Repr

namespace ApiError

def text : ApiError → String
  | .transport detail => "Network error: " ++ detail
  | .server _ message => message
  | .decode detail => "Unexpected response from server: " ++ detail

def failureMessage (e : ApiError) (action : String) : String :=
  if Text.beginsWith e.text "Failed to " then e.text
  else "Failed to " ++ action ++ ": " ++ e.text

def status? : ApiError → Option Nat
  | .server status _ => some status
  | .transport _ | .decode _ => none

end ApiError

end StubConsole
