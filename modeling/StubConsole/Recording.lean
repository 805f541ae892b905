import StubConsole.Json.Record

/-!
# Recording — the recorder of the server

* `RecordingStatus` — what the recorder does, and which actions it allows;
* `RecordingState` — the status with the address that is recorded;
* `RecordingAction` — what the user can ask for.
-/

namespace StubConsole

open Rule Members

inductive RecordingStatus where
  | neverStarted
  | recording
  | stopped
  | playing
  deriving DecidableEq, Repr

namespace RecordingStatus

def all : List RecordingStatus := [.neverStarted, .recording, .stopped, .playing]

/-- The name in documents. -/
def name : RecordingStatus → String
  | .neverStarted => "NeverStarted"
  | .recording => "Recording"
  | .stopped => "Stopped"
  | .playing => "Playing"

def label : RecordingStatus → String
  | .neverStarted => "Never Started"
  | .recording => "Recording"
  | .stopped => "Stopped"
  | .playing => "Playing"

def isBusy : RecordingStatus → Bool
  | .recording | .playing => true
  | .neverStarted | .stopped => false

end RecordingStatus

inductive RecordingAction where
  | startRecording
  | stopRecording
  | startPlayback
  | stopPlayback
  deriving DecidableEq, Repr

namespace RecordingAction

def all : List RecordingAction :=
  [.startRecording, .stopRecording, .startPlayback, .stopPlayback]

/-- What messages call the action. -/
def verb : RecordingAction → String
  | .startRecording => "start recording"
  | .stopRecording => "stop recording"
  | .startPlayback => "start playback"
  | .stopPlayback => "stop playback"

/-- Nothing starts while the recorder is busy, and only what runs can be stopped. -/
def allowed : RecordingAction → RecordingStatus → Bool
  | .startRecording, status => !status.isBusy
  | .stopRecording, status => status = .recording
  | .startPlayback, status => !status.isBusy
  | .stopPlayback, status => status = .playing

end RecordingAction

structure RecordingState where
  status : RecordingStatus
  targetUrl : Option String
  deriving DecidableEq, Repr

namespace RecordingState

def initial : RecordingState := ⟨.neverStarted, none⟩

instance : Inhabited RecordingState := ⟨initial⟩

def names : List String := ["status", "targetUrl"]

def ofJson? (doc : Json) : Option RecordingState := do
  let m ← ofObjectOrArray? names 0 doc
  return {
    status := ← m.field "status" (required (choice RecordingStatus.all RecordingStatus.name))
    targetUrl := ← m.field "targetUrl" (optional string) }

def toJson (s : RecordingState) : Json :=
  .obj (("status", .str s.status.name) :: whenSome "targetUrl" (s.targetUrl.map .str))

instance : Record RecordingState where
  shape := .record (names.map (·, .any)) false
  ofJson? := ofJson?
  toJson := toJson

end RecordingState

end StubConsole
