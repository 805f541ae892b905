import StubConsole.Dashboard
import StubConsole.Http.Reply
import StubConsole.Outgoing
import StubConsole.Recording
import StubConsole.StubKind

/-!
# AdminApi — the calls to the admin API

Each call is one request.  An answer with an error status becomes an error with the text of the
answer, or with a text of the call's own where the answer has none.

* `AdminCall` — a request below the address of the API, and how its answer is read;
* one definition for each call.
-/

namespace StubConsole

structure AdminCall (α : Type) where
  method : HttpMethod
  /-- What follows the address of the API. -/
  path : String
  body : Option Json
  /-- What came back, read. -/
  read : Exchange → Except ApiError α

namespace AdminCall

/-- The address of the API as calls extend it. -/
def baseOf (address : String) : String := String.ofList (dropSlashesEnd address.toList)

/-- The request of a call to the API at an address. -/
def outgoing {α : Type} (call : AdminCall α) (address : String) : Outgoing where
  method := call.method
  url := baseOf address ++ call.path
  headers := if call.body.isSome then [("content-type", "application/json")] else []
  body := call.body.map Json.compact

/-! ## Answers -/

/-- An answer with a success status; a blank error text gives way to the given one. -/
def accepted (fallback : String) : Exchange → Except ApiError Reply
  | .error detail => .error (.transport detail)
  | .ok reply =>
      if reply.isSuccess then .ok reply
      else
        let text := match reply.text with
          | .ok text => text
          | .error _ => ""
        .error (.server reply.status (if Text.allBlank text then fallback else text))

/-- The text of an accepted answer. -/
def readText (fallback : String) (e : Exchange) : Except ApiError String := do
  let reply ← accepted fallback e
  reply.text.mapError .transport

/-- The record in an accepted answer. -/
def readRecord {α : Type} [Record α] (fallback : String) (e : Exchange) : Except ApiError α := do
  match Record.read? (← readText fallback e) with
  | some value => .ok value
  | none => .error (.decode "not the expected document")

/-- Nothing but the status of the answer counts. -/
def readNothing (fallback : String) (e : Exchange) : Except ApiError Unit := do
  let _ ← accepted fallback e
  return ()

/-- The record in an accepted answer, nothing if the server has none. -/
def readIfFound {α : Type} [Record α] (fallback : String) (e : Exchange) :
    Except ApiError (Option α) :=
  match (readRecord fallback e : Except ApiError α) with
  | .ok value => .ok (some value)
  | .error (.server 404 _) => .ok none
  | .error cause => .error cause

/-! ## Shapes of calls -/

def fetch {α : Type} [Record α] (path fallback : String) : AdminCall α :=
  ⟨.get, path, none, readRecord fallback⟩

def send {α : Type} [Record α] (method : HttpMethod) (path : String) (body : Json)
    (fallback : String) : AdminCall α :=
  ⟨method, path, some body, readRecord fallback⟩

def order (method : HttpMethod) (path fallback : String) : AdminCall Unit :=
  ⟨method, path, none, readNothing fallback⟩

end AdminCall

namespace AdminApi

open AdminCall

/-! ## Stubs -/

def stubsPath : StubKind → String
  | .rest => "/stubs"
  | .graphQl => "/graphql-stubs"
  | .soap => "/soap-stubs"

def stubPath (kind : StubKind) (id : String) : String := stubsPath kind ++ "/" ++ id

def listStubs (kind : StubKind) : AdminCall (List kind.Item) :=
  fetch (stubsPath kind) ("Failed to fetch " ++ kind.noun ++ "s")

def getStub (kind : StubKind) (id : String) : AdminCall kind.Item :=
  fetch (stubPath kind id) ("Failed to fetch " ++ kind.noun)

/-- A stub that may be missing. -/
def findStub (id : String) : AdminCall (Option Stub) :=
  { getStub .rest id with read := readIfFound "Failed to fetch stub" }

def createStub (kind : StubKind) (document : Json) : AdminCall kind.Item :=
  send .post (stubsPath kind) document ("Failed to create " ++ kind.noun)

def updateStub (kind : StubKind) (id : String) (document : Json) : AdminCall kind.Item :=
  send .put (stubPath kind id) document ("Failed to update " ++ kind.noun)

def deleteStub (kind : StubKind) (id : String) : AdminCall Unit :=
  order .delete (stubPath kind id) ("Failed to delete " ++ kind.noun)

/-- Asks the server whether it can use a WSDL document. -/
def validateWsdl (url : String) : AdminCall Unit where
  method := .post
  path := "/soap-stubs/validate-wsdl"
  body := some (.obj [("url", .str url)])
  read := readNothing "Failed to validate WSDL"

/-! ## Scenarios -/

def listScenarios : AdminCall (List Scenario) :=
  fetch "/scenarios" "Failed to fetch scenarios"

def setScenarioState (id state : String) : AdminCall Scenario :=
  send .put ("/scenarios/" ++ id) (.obj [("state", .str state)]) "Failed to update scenario"

def resetScenarios : AdminCall Unit :=
  order .post "/scenarios/reset" "Failed to reset scenarios"

/-! ## Requests and counters -/

def listRequests : AdminCall (List RequestLog) :=
  fetch "/requests" "Failed to fetch requests"

def clearRequests : AdminCall Unit :=
  order .delete "/requests" "Failed to clear requests"

def dashboardStats : AdminCall DashboardStats :=
  fetch "/dashboard/stats" "Failed to fetch dashboard statistics"

/-- The list of a collection. -/
def list : (c : Collection) → AdminCall (List c.Item)
  | .stubs kind => listStubs kind
  | .scenarios => listScenarios
  | .requests => listRequests

/-! ## The recorder -/

def recordingStatus : AdminCall RecordingState :=
  fetch "/recording/status" "Failed to fetch recording status"

/-- Starts or stops recording or playback; only a start of recording needs the target. -/
def control (target : String) : RecordingAction → AdminCall Unit
  | .startRecording =>
      order .post
        ("/recording/start?targetUrl=" ++ String.ofList (Percent.formEncode target.toList))
        "Failed to start recording"
  | .stopRecording => order .post "/recording/stop" "Failed to stop recording"
  | .startPlayback => order .post "/recording/playback/start" "Failed to start playback"
  | .stopPlayback => order .post "/recording/playback/stop" "Failed to stop playback"

/-! ## Import and export -/

/-- Sends a specification; the server answers with the stubs it made of it. -/
def importOpenApi (spec : String) : AdminCall (List Json) :=
  send .post "/import/openapi" (.obj [("spec", .str spec)]) "Failed to import OpenAPI spec"

/-- All stubs as one document, as the server writes it. -/
def exportStubs : AdminCall String :=
  ⟨.get, "/export/stubs", none, readText "Failed to export stubs"⟩

end AdminApi

end StubConsole
