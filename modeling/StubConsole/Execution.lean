import StubConsole.Http.Reply
import StubConsole.SortedMap
import StubConsole.Text.Lowercase

/-!
# Execution — what came back from a tried stub

An execution never fails: where no answer came, it says why.
-/

namespace StubConsole

inductive Execution where
  | answered (status : Nat) (reason : String) (headers : SortedMap String) (body : String)
      (milliseconds : Nat)
  | failed (message : String)
  deriving DecidableEq, Repr

namespace Execution

/-- The value of a header, nothing if it has other characters than printable ASCII and tabs. -/
def headerText (value : String) : String :=
  if value.toList.all fun c => c = '\t' || (0x20 ≤ c.toNat && c.toNat < 0x7F) then value else ""

/-- The headers under names in small letters; of several with one name the last counts. -/
def headerTable (headers : List (String × String)) : SortedMap String :=
  .ofList (headers.map fun h => (Text.lowercase h.1, headerText h.2))

def ofReply (r : Reply) (milliseconds : Nat) : Execution :=
  match r.text with
  | .ok body =>
      .answered r.status ((reasonPhrase? r.status).getD "Unknown") (headerTable r.headers) body
        milliseconds
  | .error detail => .failed ("Failed to read response body: " ++ detail)

/-- What is shown of an exchange that took some time. -/
def ofExchange (milliseconds : Nat) : Exchange → Execution
  | .ok r => ofReply r milliseconds
  | .error detail => .failed ("Request failed: " ++ detail)

end Execution

end StubConsole
