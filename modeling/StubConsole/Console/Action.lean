import StubConsole.Console.Basic

/-!
# Action — what changes the console at once

Keys stand for actions.  An action needs nobody's answer: it moves between pages and rows, changes
filters, opens and closes the editor and the dialog, or sets the notice.  An action that makes no
sense on the page shown does nothing.

* `Action` — the actions;
* `Console.apply` — what each one does.
-/

namespace StubConsole

inductive Action where
  | goTo (page : Page)
  | nextPage
  | prevPage
  | selectNext
  | selectPrev
  | enterSearch
  | leaveSearch
  | appendSearch (text : String)
  | backspaceSearch
  | clearSearch
  | cycleMethod
  | cycleStatus
  | toggleOrder
  | toggleDetails
  | openNew
  | openSelected
  | closeEditor
  | nextTab
  | prevTab
  | nextField
  | prevField
  | toggleJson
  | scrollUp
  | scrollDown
  | openDialog
  | closeDialog
  | pickState (direction : ScenarioDialog.Direction)
  | cycleFormat
  | setNotice (notice : Notice)
  | clearNotice
  deriving DecidableEq, Repr

/-- The lines that one step through a response covers. -/
def scrollStep : Nat := 5

namespace Console

/-! ## Pages and rows -/

/-- Shows a page.  The editor and the field of the page that is left are closed. -/
def goTo (s : Console) (page : Page) : Console :=
  { s.modifyView ListView.disarm with
    editor := .closed
    lineInput := none
    mode := .normal
    page
    notice := none }

def selectNext (s : Console) : Console :=
  let visible := s.visibleCount
  let next := fun i => if i + 1 < visible then i + 1 else i
  match s.page with
  | .requests | .scenarios => s.modifyCursor next
  | .settings => { s with settings.selected := s.settings.selected.below }
  | _ => s.modifyView fun v => v.selectNext visible

def selectPrev (s : Console) : Console :=
  match s.page with
  | .requests | .scenarios => s.modifyCursor (· - 1)
  | .settings => { s with settings.selected := s.settings.selected.above }
  | _ => s.modifyView ListView.selectPrev

/-! ## Search -/

/-- Puts the cursor on the first row, as the rows have changed. -/
def toFirstRow (s : Console) : Console :=
  if s.page = .requests then s.modifyJournal fun v => { v with selected := 0 }
  else s.modifyView fun v => { v with selected := 0, confirm := .disarmed }

def changeSearch (s : Console) (f : String → String) : Console :=
  (s.modifySearch f).toFirstRow

def enterSearch (s : Console) : Console :=
  if s.hasSearch then { s.modifyView ListView.disarm with mode := .searching } else s

def cycleMethod (s : Console) : Console :=
  match s.page with
  | .requests => s.modifyJournal JournalView.cycleMethod
  | .stubs => { s with stubList := s.stubList.cycleMethod }
  | _ => s

/-- Changes the journal, on its page only. -/
def changeJournal (s : Console) (f : JournalView → JournalView) : Console :=
  if s.page = .requests then s.modifyJournal f else s

/-! ## The editor -/

def openEditor (s : Console) (editor : Editor) : Console :=
  { s.modifyView ListView.disarm with editor := .opened editor, mode := .normal }

def openNew (s : Console) : Console :=
  match StubKind.ofPage? s.page with
  | some kind => s.openEditor (.opened kind kind.fresh)
  | none => s

/-- The stub under the cursor, opened. -/
def selectedEditor? (s : Console) : Option Editor := do
  let kind ← StubKind.ofPage? s.page
  let id ← s.selectedId?
  return .opened kind (← (s.cacheOf kind).get? id)

def openSelected (s : Console) : Console :=
  match s.selectedEditor? with
  | some editor => s.openEditor editor
  | none => s

def closeEditor (s : Console) : Console :=
  { s with editor := .closed, mode := .normal }

def modifyEditor (s : Console) (f : Editor → Editor) : Console :=
  { s with editor := s.editor.modify f }

/-- Switches the open editor between form and text. -/
def toggleJson (s : Console) : Console :=
  match s.editor.active with
  | none => s
  | some e =>
      let toggled := e.session.toggleMode
      let s := s.modifyEditor fun _ => { e with session := toggled.1 }
      match toggled.2 with
      | .ok () => { s with mode := .normal }
      | .error message => { s with notice := some (.error message) }

/-! ## The dialog -/

def openDialog (s : Console) : Console :=
  match s.selectedScenario? with
  | some scenario =>
      { s with scenarioPage.dialog := some (.opened scenario), mode := .dialog }
  | none => s

def closeDialog (s : Console) : Console :=
  { s with scenarioPage.dialog := none, mode := .normal }

/-- Changes the dialog, if it is open. -/
def modifyDialog (s : Console) (f : ScenarioDialog → ScenarioDialog) : Console :=
  { s with scenarioPage.dialog := s.scenarioPage.dialog.map f }

/-! ## All actions -/

def apply (s : Console) : Action → Console
  | .goTo page => s.goTo page
  | .nextPage => s.goTo s.page.next
  | .prevPage => s.goTo s.page.prev
  | .selectNext => s.selectNext
  | .selectPrev => s.selectPrev
  | .enterSearch => s.enterSearch
  | .leaveSearch => { s with mode := .normal }
  | .appendSearch text => s.changeSearch (· ++ text)
  | .backspaceSearch => s.changeSearch fun text => String.ofList text.toList.dropLast
  | .clearSearch => s.changeSearch fun _ => ""
  | .cycleMethod => s.cycleMethod
  | .cycleStatus => s.changeJournal JournalView.cycleStatus
  | .toggleOrder => s.changeJournal JournalView.toggleOrder
  | .toggleDetails => s.changeJournal fun v => { v with showDetails := !v.showDetails }
  | .openNew => s.openNew
  | .openSelected => s.openSelected
  | .closeEditor => s.closeEditor
  | .nextTab => s.modifyEditor fun e => { e with session := e.session.setTab e.session.tab.next }
  | .prevTab => s.modifyEditor fun e => { e with session := e.session.setTab e.session.tab.prev }
  | .nextField => s.modifyEditor fun e => { e with session := e.session.selectNext }
  | .prevField => s.modifyEditor fun e => { e with session := e.session.selectPrev }
  | .toggleJson => s.toggleJson
  | .scrollUp => { s with editor.scroll := s.editor.scroll - scrollStep }
  | .scrollDown => { s with editor.scroll := s.editor.scroll + scrollStep }
  | .openDialog => s.openDialog
  | .closeDialog => s.closeDialog
  | .pickState direction => s.modifyDialog fun d => { d.pick direction with error := none }
  | .cycleFormat =>
      { s with transfer.format := s.transfer.format.next, transfer.message := none }
  | .setNotice notice => { s with notice := some notice }
  | .clearNotice => { s with notice := none }

end Console

end StubConsole
