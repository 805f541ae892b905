import StubConsole.Console.Action
import StubConsole.Console.Command
import StubConsole.Json.Reformat

/-!
# Keys — what each key does

What a key means depends on the input mode, and in normal mode on whether an editor is open and on
the page.  Typed characters are text in every mode but the normal one.

* `Console.handleKey` — the console after a key, and what the key asks of the world.
-/

namespace StubConsole

/-- What a key leads to. -/
abbrev KeyResult := Console × Option Command

namespace Console

/-- A key that only changes the console. -/
def done (s : Console) : KeyResult := (s, none)

def ask (s : Console) (command : Command) : KeyResult := (s, some command)

def act (s : Console) (action : Action) : KeyResult := done (s.apply action)

/-! ## Text fields -/

/-- Keys for the search box.  Enter keeps the search, Escape drops it.  As in a `TextBuffer`, keys
that wait behind a character come one by one. -/
def handleSearchKey (s : Console) (key : Key) : Console :=
  match key.code with
  | .enter => s.apply .leaveSearch
  | .escape => (s.apply .clearSearch).apply .leaveSearch
  | .backspace => s.apply .backspaceSearch
  | .char c =>
      if !key.ctrl then s.apply (.appendSearch (String.singleton c))
      else if c = 'l' then s.apply .clearSearch
      else s
  | _ => s

/-- The text that the field of the page starts with. -/
def lineText? (s : Console) : Option String :=
  match s.page with
  | .recording => some s.recording.targetUrl
  | .importExport => some s.transfer.path
  | .settings => some (s.settings.texts.get s.settings.selected)
  | _ => none

def beginLineInput (s : Console) : Console :=
  match s.lineText? with
  | some text => { s with lineInput := some (.singleLine text), mode := .editingField }
  | none => s

/-- Stores the text of the field of the page. -/
def storeLine (s : Console) (text : String) : Console :=
  match s.page with
  | .recording => { s with recording.targetUrl := text, recording.error := none }
  | .importExport => { s with transfer.path := text }
  | .settings =>
      { s with
        settings.texts := s.settings.texts.set text s.settings.selected
        settings.message := none }
  | _ => s

def closeLine (s : Console) : Console := { s with lineInput := none, mode := .normal }

/-- Keys for the field of the page.  Enter stores the text, Escape drops it. -/
def handleLineKey (s : Console) (key : Key) : Console :=
  match s.lineInput with
  | none => { s with mode := .normal }
  | some input =>
      match key.code with
      | .escape => s.closeLine
      | .enter => s.closeLine.storeLine (Text.trim input.content)
      | _ => { s with lineInput := some (input.handleKey key).1 }

/-! ## The editor -/

def isSave (key : Key) : Bool := key.ctrl && key.code = .char 's'

/-- Stores the text of the open field; the field stays open if the text is refused. -/
def commitField (s : Console) (e : Editor) : Console :=
  match e.session.commitInput with
  | .ok session =>
      { s.modifyEditor fun _ => { e with session } with mode := .normal, notice := none }
  | .error fault => { s with notice := some (.error fault.message) }

/-- Keys for the open field of the editor. -/
def handleFieldKey (s : Console) (key : Key) : Console :=
  match s.editor.active with
  | none => { s with mode := .normal }
  | some e =>
      match e.session.input with
      | none => { s with mode := .normal }
      | some input =>
          if key.code = .escape then
            { s.modifyEditor fun _ => { e with session := e.session.cancelInput } with
              mode := .normal }
          else if isSave key || (key.code = .enter && !input.multiline) then s.commitField e
          else
            s.modifyEditor fun _ =>
              { e with session := { e.session with input := some (input.handleKey key).1 } }

/-- Brings the text of an open document into pretty form. -/
def formatDocument (s : Console) (e : Editor) : Console :=
  match e.session.json with
  | none => s
  | some buffer =>
      match buffer.formatJson with
      | .ok after =>
          s.modifyEditor fun _ =>
            { e with session := { e.session with json := some after }.syncJson }
      | .error message =>
          { s.modifyEditor fun _ => { e with session := e.session.syncJson } with
            notice := some (.error message) }

/-- Types into an open document. -/
def typeDocument (s : Console) (e : Editor) (key : Key) : Console :=
  match e.session.json with
  | none => s
  | some buffer =>
      match buffer.pressKey? key with
      | none => s
      | some after =>
          s.modifyEditor fun _ =>
            { e with session := { e.session with json := some after }.syncJson }

/-- Keys for the document of a stub. -/
def handleJsonKey (s : Console) (key : Key) : KeyResult :=
  match s.editor.active with
  | none => done { s with mode := .normal }
  | some e =>
      if key.code = .escape then done { s with mode := .normal }
      else if isSave key then ask { s with mode := .normal } .saveEditor
      else if key.ctrl && key.code = .char 'f' then done (s.formatDocument e)
      else done (s.typeDocument e key)

/-- Opens the selected field or the document for typing, unless a save is under way. -/
def startEditing (s : Console) : Console :=
  match s.editor.active with
  | none => s
  | some e =>
      if e.session.saving then s
      else if e.session.draft.isRaw then { s with mode := .editingJson }
      else
        let activated := e.session.activate
        let s := s.modifyEditor fun _ => { e with session := activated.1 }
        if activated.2 then { s with mode := .editingField } else s

/-- The body of the last response, in the form in which it is copied. -/
def responseText? (s : Console) : Option String :=
  match s.editor.response with
  | some (.answered _ _ _ body _) => some (Json.reformat body)
  | some (.failed _) | none => none

def copyResponse (s : Console) : KeyResult :=
  match s.responseText? with
  | some text => ask s (.copy .response text)
  | none => done s

def isSoapEditor (s : Console) : Bool := s.editor.active.any fun e => e.kind = .soap

/-- Keys for the open editor while nothing is typed. -/
def handleEditorKey (s : Console) (key : Key) : KeyResult :=
  match key.code with
  | .escape => act s .closeEditor
  | .tab | .right => act s .nextTab
  | .backTab | .left => act s .prevTab
  | .down => act s .nextField
  | .up => act s .prevField
  | .enter => done s.startEditing
  | .char c =>
      if key.ctrl && c = 's' then ask s .saveEditor
      else if key.ctrl && c = 'u' then act s .scrollUp
      else if key.ctrl && c = 'd' then act s .scrollDown
      else if c = 'l' then act s .nextTab
      else if c = 'h' then act s .prevTab
      else if c = 'j' then act s .nextField
      else if c = 'k' then act s .prevField
      else if c = 'J' then act s .toggleJson
      else if c = 'x' then ask s .executeEditor
      else if c = 'y' then copyResponse s
      else if c = 'v' && s.isSoapEditor then ask s .validateWsdl
      else done s
  | _ => done s

/-! ## The dialog -/

/-- Asks for the state that the dialog names. -/
def submitDialog (s : Console) : KeyResult :=
  match s.scenarioPage.dialog with
  | none => done s
  | some d =>
      if d.saving then done s
      else
        match d.submission with
        | .ok state => ask s (.setScenarioState d.id state)
        | .error message => done (s.modifyDialog fun d => { d with error := some message })

/-- Types into the dialog. -/
def typeDialog (s : Console) (key : Key) : Console :=
  s.modifyDialog fun d =>
    match d.input.pressKey? key with
    | some input => { d with input, picked := none, error := none }
    | none => d

def handleDialogKey (s : Console) (key : Key) : KeyResult :=
  match key.code with
  | .escape => act s .closeDialog
  | .up => act s (.pickState .backward)
  | .down | .tab => act s (.pickState .forward)
  | .enter => submitDialog s
  | _ => done (s.typeDialog key)

/-! ## The pages -/

/-- The first press arms the stub under the cursor, the second one on it deletes it. -/
def pressDelete (s : Console) (kind : StubKind) : KeyResult :=
  match s.selectedId? with
  | none => done s
  | some id =>
      let press := (s.viewOf kind).confirm.press id
      let s := s.modifyView fun v => { v with confirm := press.1 }
      if press.2 then ask { s with notice := none } (.delete kind id)
      else done { s with notice := some (.info "Press d again to delete") }

def copyStub (s : Console) : KeyResult :=
  match s.selectedJson? with
  | some text => ask s (.copy .stub text)
  | none => done s

def handleStubsKey (s : Console) (kind : StubKind) (key : Key) : KeyResult :=
  match key.code with
  | .enter => act s .openSelected
  | .escape => done { s.modifyView ListView.disarm with notice := none }
  | .char '/' => act s .enterSearch
  | .char 'm' => act s .cycleMethod
  | .char 'n' => act s .openNew
  | .char 'e' => act s .openSelected
  | .char 'y' => copyStub s
  | .char 'd' => pressDelete s kind
  | _ => done s

def handleScenariosKey (s : Console) (key : Key) : KeyResult :=
  match key.code with
  | .enter | .char 'e' => act s .openDialog
  | .char 'R' => ask s .resetScenarios
  | _ => done s

def handleJournalKey (s : Console) (key : Key) : KeyResult :=
  match key.code with
  | .enter => act s .toggleDetails
  | .char '/' => act s .enterSearch
  | .char 'm' => act s .cycleMethod
  | .char 's' => act s .cycleStatus
  | .char 'o' => act s .toggleOrder
  | .char 'C' => ask s .clearJournal
  | _ => done s

def handleRecordingKey (s : Console) (key : Key) : KeyResult :=
  match key.code with
  | .enter | .char 'e' => done s.beginLineInput
  | .char 'r' => ask s (.recording .startRecording)
  | .char 's' => ask s (.recording .stopRecording)
  | .char 'p' => ask s (.recording .startPlayback)
  | .char 'P' => ask s (.recording .stopPlayback)
  | _ => done s

def handleTransferKey (s : Console) (key : Key) : KeyResult :=
  match key.code with
  | .enter | .char 'e' => done s.beginLineInput
  | .char 't' => act s .cycleFormat
  | .char 'i' => ask s .importSpec
  | .char 'x' => ask s .exportStubs
  | _ => done s

def handleSettingsKey (s : Console) (key : Key) : KeyResult :=
  match key.code with
  | .enter | .char 'e' => done s.beginLineInput
  | .char 's' => ask s .saveSettings
  | _ => done s

def handlePageKey (s : Console) (key : Key) : KeyResult :=
  match key.code with
  | .down | .char 'j' => act s .selectNext
  | .up | .char 'k' => act s .selectPrev
  | _ =>
      match s.page with
      | .dashboard => done s
      | .stubs => s.handleStubsKey .rest key
      | .graphQl => s.handleStubsKey .graphQl key
      | .soap => s.handleStubsKey .soap key
      | .scenarios => s.handleScenariosKey key
      | .requests => s.handleJournalKey key
      | .recording => s.handleRecordingKey key
      | .importExport => s.handleTransferKey key
      | .settings => s.handleSettingsKey key

/-- Keys on a page while nothing is typed and no editor is open. -/
def handleNormalKey (s : Console) (key : Key) : KeyResult :=
  match key.code with
  | .tab => act s .nextPage
  | .backTab => act s .prevPage
  | .char c =>
      if c = 'q' || (key.ctrl && c = 'c') then done { s with quit := true }
      else if key.ctrl && c = 'r' then ask s .refresh
      else
        match Page.ofDigit? c with
        | some page => act s (.goTo page)
        | none => s.handlePageKey key
  | _ => s.handlePageKey key

/-! ## All keys -/

def handleKey (s : Console) (key : Key) : KeyResult :=
  match s.mode with
  | .searching => done (s.handleSearchKey key)
  | .editingField =>
      if s.editor.isOpen && s.lineInput.isNone then done (s.handleFieldKey key)
      else done (s.handleLineKey key)
  | .editingJson => s.handleJsonKey key
  | .dialog => s.handleDialogKey key
  | .normal => if s.editor.isOpen then s.handleEditorKey key else s.handleNormalKey key

end Console

end StubConsole
