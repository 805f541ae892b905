import StubConsole.Config
import StubConsole.Dashboard
import StubConsole.Editor
import StubConsole.JournalView
import StubConsole.Notice
import StubConsole.Recording
import StubConsole.ScenarioDialog
import StubConsole.Transfer

/-!
# Console — everything the user sees

The state of the console: the page, what the keys mean at the moment, the collections with the
views on them, the pages with a state of their own, the editor, and the last notice.

* `Console` — the state;
* `Console.collection`, `Console.modifyCollection` — the collections, addressed by name;
* `Console.view?`, `Console.modifyView` — the list of the page shown;
* `Console.visibleCount`, `Console.selectedId?` — rows and cursor of the page shown;
* `Console.clampSelection` — brings the cursor back to a row.
-/

namespace StubConsole

/-- What a key is taken for. -/
inductive InputMode where
  | normal
  /-- Text for the search box of the page. -/
  | searching
  /-- Text for one field of the editor or of the page. -/
  | editingField
  /-- Text for the JSON document of a stub. -/
  | editingJson
  /-- The dialog of a scenario is open. -/
  | dialog
  deriving DecidableEq, Repr

structure DashboardPage where
  stats : Option DashboardStats
  loading : Bool
  error : Option String
  deriving DecidableEq, Repr

structure ScenarioPage where
  selected : Nat
  dialog : Option ScenarioDialog
  /-- The scenarios are being reset. -/
  busy : Bool
  deriving DecidableEq, Repr

structure RecordingPage where
  /-- What the server said last. -/
  state : RecordingState
  targetUrl : String
  error : Option String
  /-- The recorder is being started or stopped. -/
  busy : Bool
  deriving DecidableEq, Repr

structure TransferPage where
  format : ImportFormat
  path : String
  busy : Bool
  message : Option Notice
  deriving DecidableEq, Repr

structure SettingsPage where
  texts : SettingsTexts
  selected : Setting
  message : Option Notice
  deriving DecidableEq, Repr

structure Console where
  page : Page
  mode : InputMode
  stubs : Cache Stub
  graphQl : Cache GraphQlStub
  soap : Cache SoapStub
  scenarios : Cache Scenario
  requests : Cache RequestLog
  stubList : ListView
  graphQlList : ListView
  soapList : ListView
  journal : JournalView
  dashboard : DashboardPage
  scenarioPage : ScenarioPage
  recording : RecordingPage
  transfer : TransferPage
  settings : SettingsPage
  editor : EditorPane
  /-- The text field of the page, while it is being typed into. -/
  lineInput : Option TextBuffer
  notice : Option Notice
  /-- Something was copied to the clipboard just now. -/
  copied : Bool
  /-- The user asked to leave. -/
  quit : Bool

namespace Console

def initial : Console where
  page := .dashboard
  mode := .normal
  stubs := .empty
  graphQl := .empty
  soap := .empty
  scenarios := .empty
  requests := .empty
  stubList := .initial
  graphQlList := .initial
  soapList := .initial
  journal := .initial
  dashboard := ⟨none, false, none⟩
  scenarioPage := ⟨0, none, false⟩
  recording := ⟨.initial, "", none, false⟩
  transfer := ⟨.openApi, "", false, none⟩
  settings := ⟨⟨"", "", "", ""⟩, .apiBaseUrl, none⟩
  editor := .closed
  lineInput := none
  notice := none
  copied := false
  quit := false

instance : Inhabited Console := ⟨initial⟩

/-! ## Collections -/

def collection (s : Console) : (c : Collection) → Cache c.Item
  | .stubs .rest => s.stubs
  | .stubs .graphQl => s.graphQl
  | .stubs .soap => s.soap
  | .scenarios => s.scenarios
  | .requests => s.requests

def modifyCollection (s : Console) :
    (c : Collection) → (Cache c.Item → Cache c.Item) → Console
  | .stubs .rest, f => { s with stubs := f s.stubs }
  | .stubs .graphQl, f => { s with graphQl := f s.graphQl }
  | .stubs .soap, f => { s with soap := f s.soap }
  | .scenarios, f => { s with scenarios := f s.scenarios }
  | .requests, f => { s with requests := f s.requests }

def cacheOf (s : Console) (kind : StubKind) : Cache kind.Item := s.collection (.stubs kind)

/-! ## Views -/

def viewOf (s : Console) : StubKind → ListView
  | .rest => s.stubList
  | .graphQl => s.graphQlList
  | .soap => s.soapList

/-- The list that the page shows, if it shows one of stubs. -/
def view? (s : Console) : Option ListView := (StubKind.ofPage? s.page).map s.viewOf

/-- Changes the list that the page shows. -/
def modifyView (s : Console) (f : ListView → ListView) : Console :=
  match StubKind.ofPage? s.page with
  | some .rest => { s with stubList := f s.stubList }
  | some .graphQl => { s with graphQlList := f s.graphQlList }
  | some .soap => { s with soapList := f s.soapList }
  | none => s

def modifyJournal (s : Console) (f : JournalView → JournalView) : Console :=
  { s with journal := f s.journal }

/-- The page shown has a search box. -/
def hasSearch (s : Console) : Bool := s.page = .requests || s.view?.isSome

/-- Changes the search text of the page shown. -/
def modifySearch (s : Console) (f : String → String) : Console :=
  if s.page = .requests then s.modifyJournal fun v => { v with search := f v.search }
  else s.modifyView fun v => { v with search := f v.search }

/-- Changes the place of the cursor on the page shown. -/
def modifyCursor (s : Console) (f : Nat → Nat) : Console :=
  match s.page with
  | .requests => s.modifyJournal fun v => { v with selected := f v.selected }
  | .scenarios => { s with scenarioPage.selected := f s.scenarioPage.selected }
  | _ => s.modifyView fun v => { v with selected := f v.selected }

/-! ## Rows -/

/-- The rows that the page shows. -/
def visibleCount (s : Console) : Nat :=
  match s.page with
  | .requests => (s.journal.shown s.requests.items).length
  | .scenarios => s.scenarios.items.length
  | page =>
      match StubKind.ofPage? page with
      | some kind => ((s.viewOf kind).filter (s.cacheOf kind).items).length
      | none => 0

/-- The stub under the cursor. -/
def selectedStub? (s : Console) (kind : StubKind) : Option kind.Item :=
  (s.viewOf kind).selectedItem? (s.cacheOf kind).items

/-- The identifier of the stub under the cursor, on a page that lists stubs. -/
def selectedId? (s : Console) : Option String := do
  let kind ← StubKind.ofPage? s.page
  return Listed.id (← s.selectedStub? kind)

/-- The document of the stub under the cursor. -/
def selectedJson? (s : Console) : Option String := do
  let kind ← StubKind.ofPage? s.page
  let id ← s.selectedId?
  return Record.writePretty (← (s.cacheOf kind).get? id)

def selectedScenario? (s : Console) : Option Scenario :=
  s.scenarios.items[s.scenarioPage.selected]?

/-- Brings the cursor back to a row after rows went away. -/
def clampSelection (s : Console) : Console :=
  s.modifyCursor (ListView.clampTo s.visibleCount)

end Console

end StubConsole
