import StubConsole.Decimal.Fixed
import StubConsole.View.Journal

/-!
# Pages — what the pages show

* `dashboardPage`, `recordingPage`, `transferPage`, `settingsPage` — the pages without a list;
* `pageOf` — the page that the console is on.
-/

namespace StubConsole

namespace View

def titleLine (text : String) : Line := .styled Style.plain.strong text

/-- An empty line and a text below it, if there is one. -/
def remark : Option Line → List Line
  | some line => [[], line]
  | none => []

def noticeLine (notice : Notice) : Line := .colored (Palette.tone notice.tone) notice.text

/-- The text of the page's field: what is being typed, or what is stored. -/
def fieldText (s : Console) (stored : String) : String :=
  match s.mode, s.lineInput with
  | .editingField, some input => input.marked
  | _, _ => orEmptyText stored

/-- A key with what it does; grey while it does nothing. -/
def actionLine (key label : String) (enabled : Bool) : Line :=
  let color (c : Color) : Style := .colored (if enabled then c else .darkGray)
  let keyStyle := color .yellow
  [⟨if enabled then keyStyle.strong else keyStyle, "[" ++ key ++ "] "⟩, ⟨color .white, label⟩]

/-! ## Dashboard -/

/-- The counters of a kind of stubs. -/
def activeOf (total active : Nat) : String :=
  Text.ofNat total ++ " (" ++ Text.ofNat active ++ " active)"

def statLabel (name : String) : Span := .colored .cyan (Text.padEnd 24 name)

def statLine (name value : String) : Line := [statLabel name, .plain value]

def statLines (stats : DashboardStats) : List Line :=
  [titleLine "Stubs",
    statLine "REST" (activeOf stats.totalStubs stats.activeStubs),
    statLine "  with faults" (Text.ofNat stats.stubsWithFaults),
    statLine "  with scenarios" (Text.ofNat stats.stubsWithScenarios),
    statLine "GraphQL" (activeOf stats.totalGraphQlStubs stats.activeGraphQlStubs),
    statLine "SOAP" (activeOf stats.totalSoapStubs stats.activeSoapStubs),
    [],
    titleLine "Requests",
    statLine "Total" (Text.ofNat stats.totalRequests),
    statLine "Recent" (Text.ofNat stats.recentRequests),
    [statLabel "Succeeded / failed", .colored .green (Text.ofNat stats.successRequests),
      .plain " / ", .colored .red (Text.ofNat stats.errorRequests)],
    statLine "Success rate" (Decimal.fixed 1 stats.successRate ++ "%")]

def dashboardPage (s : Console) (turn : Nat) : Drawing :=
  let title := " Dashboard "
  let board := s.dashboard
  match board.stats with
  | some stats =>
      let lines := statLines stats ++ remark (board.error.map (Line.colored .red))
      page title (Paragraph.clipped lines 0)
  | none =>
      if board.loading then loading title turn
      else placeholder title board.error "No statistics yet"

/-! ## Recording -/

def recordingActions : List (String × String × RecordingAction) :=
  [("r", "Start recording", .startRecording), ("s", "Stop recording", .stopRecording),
   ("p", "Start playback", .startPlayback), ("P", "Stop playback", .stopPlayback)]

def recordingColor : RecordingStatus → Color
  | .recording => .red
  | .playing => .green
  | .neverStarted | .stopped => .gray

def recordingPage (s : Console) : Drawing :=
  let recorder := s.recording
  let status := recorder.state.status
  let actions := recordingActions.map fun (key, label, action) =>
    actionLine key label (!recorder.busy && action.allowed status)
  page " Recording " <| Paragraph.wrapped
    ([[.colored .cyan "Status:     ",
        ⟨(Style.colored (recordingColor status)).strong, status.label⟩,
        .plain (if recorder.busy then "  ..." else "")],
      [.colored .cyan "Recording:  ", .plain (recorder.state.targetUrl.getD "-")],
      [.colored .cyan "Target URL: ", .colored .yellow (fieldText s recorder.targetUrl),
        ⟨Palette.muted, "  (e to edit)"⟩],
      []]
      ++ actions ++ remark (recorder.error.map (Line.colored .red))) 0

/-! ## Import and export -/

def transferPage (s : Console) : Drawing :=
  let transfer := s.transfer
  let formatColor : Color := if transfer.format.isSupported then .green else .darkGray
  let directory := s.settings.texts.get .exportDirectory
  page " Import / Export " <| Paragraph.wrapped
    ([titleLine "Import",
      [.colored .cyan "Type: ", .colored formatColor transfer.format.label,
        ⟨Palette.muted, "  (t to change)"⟩],
      [.colored .cyan "File: ", .colored .yellow (fieldText s transfer.path),
        ⟨Palette.muted, "  (e to edit)"⟩],
      actionLine "i" "Import" !transfer.busy,
      [],
      titleLine "Export",
      [.colored .cyan "Directory: ",
        .plain (if directory = "" then "current directory" else directory)],
      actionLine "x" "Export all stubs" !transfer.busy]
      ++ remark (if transfer.busy then some (Line.colored .cyan "⏳ Working...")
        else transfer.message.map noticeLine)) 0

/-! ## Settings -/

/-- A field with its label and its value, both in the colors of a row that is selected, being
edited, or neither. -/
def fieldLine (label value : String) (selected editing : Bool) : Line :=
  [.colored (if selected then .yellow else .darkGray) (if selected then Listing.arrow else "  "),
    ⟨if selected then Palette.heading else .colored .white, Text.padEnd 22 label⟩,
    ⟨if editing then (Style.colored .yellow).strong
      else .colored (if selected then .green else .gray), value⟩]

def settingLine (s : Console) (setting : Setting) : Line :=
  let selected := setting = s.settings.selected
  let editing := selected && s.mode = .editingField
  let stored := s.settings.texts.get setting
  let value := match s.lineInput with
    | some input => if editing then "[" ++ input.marked ++ "]" else shownText stored
    | none => shownText stored
  fieldLine setting.label value selected editing
where
  shownText (text : String) : String := if text = "" then emptyText else "[" ++ text ++ "]"

def settingsPage (s : Console) : Drawing :=
  page " Settings " <| Paragraph.wrapped
    (Setting.all.map (settingLine s) ++ remark (s.settings.message.map noticeLine)) 0

/-! ## All pages -/

/-- The page that the console is on. -/
def pageOf (s : Console) (turn : Nat) : Drawing :=
  match s.page with
  | .dashboard => dashboardPage s turn
  | .stubs => stubPage .rest s turn
  | .graphQl => stubPage .graphQl s turn
  | .soap => stubPage .soap s turn
  | .scenarios => scenarioPage s turn
  | .requests => journalPage s turn
  | .recording => recordingPage s
  | .importExport => transferPage s
  | .settings => settingsPage s

end View

end StubConsole
