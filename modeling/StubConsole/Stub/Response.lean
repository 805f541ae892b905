import StubConsole.Json.Basic

/-!
# Response — what a stub answers with

* `ResponseFault` — a failure of the connection that is simulated instead of an answer;
* `ResponseDefinition` — status, headers, body, delay and fault.
-/

namespace StubConsole

inductive ResponseFault where
  | connectionReset
  | emptyResponse
  | malformedChunk
  | randomDataThenClose
  deriving DecidableEq, Repr

namespace ResponseFault

def all : List ResponseFault :=
  [.connectionReset, .emptyResponse, .malformedChunk, .randomDataThenClose]

/-- The name in documents. -/
def name : ResponseFault → String
  | .connectionReset => "CONNECTION_RESET_BY_PEER"
  | .emptyResponse => "EMPTY_RESPONSE"
  | .malformedChunk => "MALFORMED_RESPONSE_CHUNK"
  | .randomDataThenClose => "RANDOM_DATA_THEN_CLOSE"

def label : ResponseFault → String
  | .connectionReset => "Connection reset by peer"
  | .emptyResponse => "Empty response"
  | .malformedChunk => "Malformed response chunk"
  | .randomDataThenClose => "Random data then close"

/-- No fault, each fault in turn, and no fault again. -/
def cycle : Option ResponseFault → Option ResponseFault
  | none => some .connectionReset
  | some .connectionReset => some .emptyResponse
  | some .emptyResponse => some .malformedChunk
  | some .malformedChunk => some .randomDataThenClose
  | some .randomDataThenClose => none

end ResponseFault

structure ResponseDefinition where
  /-- Zero when it was left unset. -/
  status : Nat
  statusMessage : Option String
  headers : SortedMap String
  body : Option String
  fixedDelayMilliseconds : Option Nat
  fault : Option ResponseFault
  transformers : List String
  /-- Members that the console does not model; they are written back as they came. -/
  extra : SortedMap Json
  deriving DecidableEq, Repr

namespace ResponseDefinition

def empty : ResponseDefinition where
  status := 0
  statusMessage := none
  headers := ∅
  body := none
  fixedDelayMilliseconds := none
  fault := none
  transformers := []
  extra := ∅

instance : Inhabited ResponseDefinition := ⟨empty⟩

end ResponseDefinition

end StubConsole
