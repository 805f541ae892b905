import StubConsole.Console.Keys
import StubConsole.Console.Task

/-!
# Begin — commands become tasks

A key names a command; beginning it reads what it needs from the console and the settings.

* `Console.request?` — the request that the open stub describes;
* `Console.begin` — the console after a command, and the task that it started;
* `Console.settingsStored` — what new settings change.
-/

namespace StubConsole

namespace Console

/-- The request that the open stub describes, to the mock server at a base. -/
def request? (s : Console) (base : String) : Option (Except String Outgoing) :=
  s.editor.active.map fun e =>
    match e.session.currentValue with
    | .error faults => .error (Text.join "; " (faults.map DraftFault.message))
    | .ok stub => (e.kind.outgoing base stub).mapError OutgoingError.message

/-- Tries the open stub, unless one is being tried. -/
def startTrial (s : Console) (base : String) : StartResult :=
  if s.editor.executing then (s, none)
  else
    match s.request? base with
    | some request => s.startExecution request
    | none => (s, none)

/-- Begins what a command asks for.  Settings and copies are not for the server: the console
changes when the file or the clipboard has answered. -/
def begin (s : Console) (config : Config) : Command → StartResult
  | .refresh => s.startRefresh s.page
  | .delete kind id => s.startDelete kind id
  | .saveEditor => s.startSave
  | .executeEditor => s.startTrial config.mockBase
  | .validateWsdl => s.startWsdlCheck
  | .setScenarioState id state => s.startMove id state
  | .resetScenarios => s.startReset
  | .clearJournal => s.startClearJournal
  | .recording action => s.startControl action
  | .importSpec => s.startImport
  | .exportStubs => s.startExport config.exportDir
  | .saveSettings | .copy _ _ => (s, none)

/-! ## Settings -/

/-- Nothing that was fetched is known of another server. -/
def forget (s : Console) : Console :=
  let s := Collection.all.foldl (fun s c => s.modifyCollection c Cache.invalidate) s
  { s with dashboard.stats := none }

/-- What the console shows once the settings page was saved, or why it was not.  The texts stay as
they were typed unless they are stored. -/
def settingsStored (s : Console) (before : Config) : Except SettingsFault Config → Console
  | .error cause => { s with settings.message := some (.error cause.message) }
  | .ok after =>
      let s := if after.apiBase = before.apiBase then s else s.forget
      { s with
        settings.texts := after.texts
        settings.message := some (.success "Settings saved") }

end Console

end StubConsole
