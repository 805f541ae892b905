import StubConsole.AdminApi
import StubConsole.Console.Action
import StubConsole.Disk

/-!
# Task — work that waits for an answer

The console asks the server or the disk and goes on; the answer arrives later, after any number of
keys and other answers.  A task is such an open question.  Starting one changes the console at
once, finishing it changes the console by the answer and may leave a follow-up task.

* `Task` — the questions, `Task.Outcome` — their answers;
* `Effect`, `Task.effect` — what has to be done to get the answer;
* the `start` functions — beginning a task, or refusing to;
* `Console.finish` — what an answer changes.
-/

namespace StubConsole

/-! ## Questions and answers -/

inductive Task where
  | fetch (c : Collection)
  | fetchDashboard
  | pollRecorder
  | delete (kind : StubKind) (id : String)
  | save (plan : SavePlan)
  | checkWsdl (url : String)
  | moveScenario (id state : String)
  | resetScenarios
  | clearJournal
  | control (action : RecordingAction) (target : String)
  /-- An import that nothing can be done for. -/
  | declineImport
  | readSpec (path : String)
  | sendSpec (spec : String)
  | fetchExport (dir : String)
  | writeExport (dir document : String)
  | execute (request : Outgoing)
  deriving DecidableEq

/-- What has to be done to answer a question, with the type of the answer. -/
inductive Effect : Type → Type 1 where
  | nothing : Effect Unit
  | call {α : Type} (call : AdminCall α) : Effect (Except ApiError α)
  /-- Sends a request to the mock server. -/
  | send (request : Outgoing) : Effect Execution
  /-- Reads a file; the text of an error says why it cannot be read. -/
  | read (path : String) : Effect (Except String String)
  /-- Writes a file, after making its directory where it is missing. -/
  | write (dir file text : String) : Effect (Except WriteFault Unit)

/-- A file in a directory. -/
def fileIn (dir name : String) : String :=
  if dir = "" || dir.toList.getLast? = some '/' then dir ++ name else dir ++ "/" ++ name

def exportFile (dir : String) : String := fileIn dir exportFileName

/-- The call that carries out a save. -/
def SavePlan.call (plan : SavePlan) : AdminCall plan.kind.Item :=
  match plan.id with
  | some id => AdminApi.updateStub plan.kind id plan.document
  | none => AdminApi.createStub plan.kind plan.document

namespace Task

@[reducible]
def Outcome : Task → Type
  | .fetch c => Except ApiError (List c.Item)
  | .fetchDashboard => Except ApiError DashboardStats
  | .pollRecorder => Except ApiError RecordingState
  | .save plan => Except ApiError plan.kind.Item
  | .moveScenario _ _ => Except ApiError Scenario
  | .delete _ _ | .checkWsdl _ | .resetScenarios | .clearJournal | .control _ _ =>
      Except ApiError Unit
  | .declineImport => Unit
  | .readSpec _ => Except String String
  | .sendSpec _ => Except ApiError (List Json)
  | .fetchExport _ => Except ApiError String
  | .writeExport _ _ => Except WriteFault Unit
  | .execute _ => Execution

def effect : (t : Task) → Effect t.Outcome
  | .fetch c => .call (AdminApi.list c)
  | .fetchDashboard => .call AdminApi.dashboardStats
  | .pollRecorder => .call AdminApi.recordingStatus
  | .delete kind id => .call (AdminApi.deleteStub kind id)
  | .save plan => .call plan.call
  | .checkWsdl url => .call (AdminApi.validateWsdl url)
  | .moveScenario id state => .call (AdminApi.setScenarioState id state)
  | .resetScenarios => .call AdminApi.resetScenarios
  | .clearJournal => .call AdminApi.clearRequests
  | .control action target => .call (AdminApi.control target action)
  | .declineImport => .nothing
  | .readSpec path => .read path
  | .sendSpec spec => .call (AdminApi.importOpenApi spec)
  | .fetchExport _ => .call AdminApi.exportStubs
  | .writeExport dir document => .write dir exportFileName document
  | .execute request => .send request

end Task

/-- What starting leads to; a task that is refused leaves only its traces in the console. -/
abbrev StartResult := Console × Option Task

namespace Console

/-! ## Starting -/

def notify (s : Console) (notice : Notice) : Console := { s with notice := some notice }

def startFetch (s : Console) (c : Collection) : StartResult :=
  (s.modifyCollection c Cache.markLoading, some (.fetch c))

/-- Fetches what a page shows. -/
def startRefresh (s : Console) (page : Page) : StartResult :=
  match Collection.ofPage? page with
  | some c => s.startFetch c
  | none =>
      match page with
      | .dashboard => ({ s with dashboard.loading := true }, some .fetchDashboard)
      | .recording => (s, some .pollRecorder)
      | _ => (s, none)

/-- The page shows a collection that has to be fetched. -/
def needsData (s : Console) : Bool :=
  match Collection.ofPage? s.page with
  | some c => (s.collection c).needsFetch
  | none => false

/-- Fetches the collection that the page shows, if it is stale. -/
def startEnsure (s : Console) : StartResult :=
  if s.needsData then s.startRefresh s.page else (s, none)

def startDelete (s : Console) (kind : StubKind) (id : String) : StartResult :=
  (s, some (.delete kind id))

/-- Checks the open draft and saves it.  While a save is under way nothing happens. -/
def startSave (s : Console) : StartResult :=
  match s.editor.active with
  | none => (s, none)
  | some e =>
      if e.session.saving then (s, none)
      else
        match e.savePlan with
        | .ok plan => (s.modifyEditor fun e => (e.withErrors []).withSaving true, some (.save plan))
        | .error faults => (s.modifyEditor (·.withErrors (faults.map DraftFault.message)), none)

/-- Asks the server about the WSDL document of an open SOAP draft. -/
def startWsdlCheck (s : Console) : StartResult :=
  match s.editor.active.bind Editor.wsdlUrl? with
  | none => (s, none)
  | some url =>
      if Text.allBlank url then (s.notify (.error "WSDL URL is required"), none)
      else ({ s with editor.validating := true }, some (.checkWsdl url))

def startMove (s : Console) (id state : String) : StartResult :=
  (s.modifyDialog fun d => { d with saving := true, error := none }, some (.moveScenario id state))

def startReset (s : Console) : StartResult :=
  ({ s with scenarioPage.busy := true }, some .resetScenarios)

def startClearJournal (s : Console) : StartResult := (s, some .clearJournal)

/-- What is wrong with the address that a recording starts from. -/
def targetFault? (target : String) : Option String :=
  match checkUrl target with
  | .ok () => none
  | .error cause => some (if target = "" then "Target URL is required" else cause.message)

/-- Starts or stops recording or playback, as far as the last known status allows it and nothing
else is under way. -/
def startControl (s : Console) (action : RecordingAction) : StartResult :=
  let status := s.recording.state.status
  let target := Text.trim s.recording.targetUrl
  if s.recording.busy || !action.allowed status then
    (s.notify (.error ("Cannot " ++ action.verb ++ " while " ++ status.label)), none)
  else
    match if action = .startRecording then targetFault? target else none with
    | some message => ({ s with recording.error := some message }, none)
    | none => ({ s with recording.busy := true }, some (.control action target))

def startImport (s : Console) : StartResult :=
  let path := Text.trim s.transfer.path
  let format := s.transfer.format
  if s.transfer.busy then (s, none)
  else if path = "" && format.isSupported then
    ({ s with transfer.message := some (.error "Import failed: choose a file first") }, none)
  else
    ({ s with transfer.busy := true, transfer.message := none },
      some (if format.isSupported then .readSpec path else .declineImport))

def startExport (s : Console) (dir : String) : StartResult :=
  if s.transfer.busy then (s, none)
  else ({ s with transfer.busy := true, transfer.message := none }, some (.fetchExport dir))

/-- Tries a stub; one that describes no request is reported at once. -/
def startExecution (s : Console) : Except String Outgoing → StartResult
  | .error message =>
      ({ s with editor.executing := false, editor.response := some (.failed message) }, none)
  | .ok request =>
      ({ s with editor.executing := true, editor.response := none, editor.scroll := 0 },
        some (.execute request))

/-! ## Finishing -/

def finishFetch (s : Console) (c : Collection) : Except ApiError (List c.Item) → Console
  | .ok items => s.modifyCollection c (·.replaceAll items)
  | .error cause => s.modifyCollection c (·.fetchFailed cause.text)

def finishDashboard (s : Console) : Except ApiError DashboardStats → Console
  | .ok stats => { s with dashboard := ⟨some stats, false, none⟩ }
  | .error cause => { s with dashboard := ⟨s.dashboard.stats, false, some cause.text⟩ }

/-- The last status stays where the server does not tell a new one. -/
def finishPoll (s : Console) : Except ApiError RecordingState → Console
  | .ok state => { s with recording.state := state, recording.error := none }
  | .error _ => { s with recording.error := some "Failed to fetch recording status" }

def finishDelete (s : Console) (kind : StubKind) (id : String) : Except ApiError Unit → Console
  | .ok () =>
      (s.modifyCollection (.stubs kind) fun c => Cache.removed (α := kind.Item) c id).notify
        (.success ("Deleted " ++ kind.noun))
  | .error cause =>
      s.modifyCollection (.stubs kind) (·.mutationFailed ("delete " ++ kind.noun) cause)

def finishSave (s : Console) (plan : SavePlan) : Except ApiError plan.kind.Item → Console
  | .ok item =>
      (s.modifyCollection (.stubs plan.kind) fun c =>
          Cache.updated (α := plan.kind.Item) c item).closeEditor.notify
        (.success ("Saved " ++ plan.kind.noun ++ " " ++ plan.label))
  | .error cause =>
      s.modifyEditor fun e =>
        (e.withSaving false).withErrors [cause.failureMessage ("save " ++ plan.kind.noun)]

def finishWsdlCheck (s : Console) (url : String) : Except ApiError Unit → Console
  | .ok () => { s with editor.validating := false }.notify (.success ("WSDL is valid: " ++ url))
  | .error cause =>
      { s with editor.validating := false }.notify
        (.error ("WSDL validation failed: " ++ cause.text))

def finishMove (s : Console) (id state : String) : Except ApiError Scenario → Console
  | .ok _ =>
      let name := (s.scenarioPage.dialog.map ScenarioDialog.name).getD id
      (s.closeDialog.modifyCollection .scenarios Cache.invalidate).notify
        (.success ("Scenario " ++ name ++ " moved to " ++ state))
  | .error cause =>
      s.modifyDialog fun d =>
        { d with saving := false, error := some (cause.failureMessage "update scenario") }

def finishReset (s : Console) (result : Except ApiError Unit) : Console :=
  let s := { s with scenarioPage.busy := false }
  match result with
  | .ok () =>
      (s.modifyCollection .scenarios Cache.invalidate).notify (.success "All scenarios reset")
  | .error cause => s.modifyCollection .scenarios (·.mutationFailed "reset scenarios" cause)

def finishClearJournal (s : Console) : Except ApiError Unit → Console
  | .ok () =>
      ((s.modifyCollection .requests Cache.clear).modifyJournal fun v =>
          { v with selected := 0, showDetails := false }).notify
        (.success "Request journal cleared")
  | .error cause => s.modifyCollection .requests (·.mutationFailed "clear requests" cause)

/-- The recorder is asked for its status after each change. -/
def finishControl (s : Console) (action : RecordingAction) : Except ApiError Unit → StartResult
  | .ok () => ({ s with recording.busy := false, recording.error := none }, some .pollRecorder)
  | .error cause =>
      ({ s with
          recording.busy := false
          recording.error := some (cause.failureMessage action.verb) }, none)

/-- A transfer ends with a message. -/
def finishTransfer (s : Console) (message : Notice) : Console :=
  { s with transfer.busy := false, transfer.message := some message }

def finishImport (s : Console) : Except ImportError ImportOutcome → Console
  | .ok (.imported created) =>
      (s.modifyCollection (.stubs .rest) Cache.invalidate).finishTransfer
        (ImportOutcome.notice (.ok (.imported created)))
  | result => s.finishTransfer (ImportOutcome.notice result)

def finishExport (s : Console) (result : Except ExportError String) : Console :=
  s.finishTransfer (exportNotice result)

def finishRead (s : Console) (path : String) : Except String String → StartResult
  | .ok spec => (s, some (.sendSpec spec))
  | .error detail => (s.finishImport (.error (.unreadable path detail)), none)

def finishSpec (s : Console) : Except ApiError (List Json) → Console
  | .ok stubs => s.finishImport (.ok (.imported stubs.length))
  | .error cause => s.finishImport (.error (.rejected cause))

def finishExportFetch (s : Console) (dir : String) : Except ApiError String → StartResult
  | .ok document => (s, some (.writeExport dir document))
  | .error cause => (s.finishExport (.error (.notFetched cause)), none)

def finishWrite (s : Console) (dir : String) : Except WriteFault Unit → Console
  | .ok () => s.finishExport (.ok (exportFile dir))
  | .error (.directory detail) => s.finishExport (.error (.noDirectory dir detail))
  | .error (.file detail) => s.finishExport (.error (.notWritten (exportFile dir) detail))

def finishExecution (s : Console) (execution : Execution) : Console :=
  { s with editor.executing := false, editor.response := some execution }

/-- What the answer to a task changes, and the task that follows. -/
def finish (s : Console) : (t : Task) → t.Outcome → StartResult
  | .fetch c, r => (s.finishFetch c r, none)
  | .fetchDashboard, r => (s.finishDashboard r, none)
  | .pollRecorder, r => (s.finishPoll r, none)
  | .delete kind id, r => (s.finishDelete kind id r, none)
  | .save plan, r => (s.finishSave plan r, none)
  | .checkWsdl url, r => (s.finishWsdlCheck url r, none)
  | .moveScenario id state, r => (s.finishMove id state r, none)
  | .resetScenarios, r => (s.finishReset r, none)
  | .clearJournal, r => (s.finishClearJournal r, none)
  | .control action _, r => s.finishControl action r
  | .declineImport, _ => (s.finishImport (.ok .unsupported), none)
  | .readSpec path, r => s.finishRead path r
  | .sendSpec _, r => (s.finishSpec r, none)
  | .fetchExport dir, r => s.finishExportFetch dir r
  | .writeExport dir _, r => (s.finishWrite dir r, none)
  | .execute _, r => (s.finishExecution r, none)

end Console

end StubConsole
