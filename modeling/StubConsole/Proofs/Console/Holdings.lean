import StubConsole.Proofs.Console.Keys

/-!
# Holdings — what keys cannot change

What was fetched, what the recorder said last, and whether a call to it or a transfer is under way
belong to the server's side of the console.  Starts and answers change them.  Keys and actions
move about, type and open, and leave all of this as it is.

* `Console.Holdings`, `Console.held` — the server's side of a console;
* `Console.held_apply` — every action leaves it alone;
* `Console.held_handleKey` — and so does every key, in every mode.
-/

namespace StubConsole

namespace Console

structure Holdings where
  stubs : Cache Stub
  graphQl : Cache GraphQlStub
  soap : Cache SoapStub
  scenarios : Cache Scenario
  requests : Cache RequestLog
  /-- What the recorder said last. -/
  recorder : RecordingState
  /-- The recorder is being started or stopped. -/
  controlling : Bool
  transferring : Bool

def held (s : Console) : Holdings :=
  ⟨s.stubs, s.graphQl, s.soap, s.scenarios, s.requests, s.recording.state, s.recording.busy,
    s.transfer.busy⟩

theorem collection_of_held {s t : Console} (h : t.held = s.held) (c : Collection) :
    t.collection c = s.collection c := by
  cases c with
  | stubs kind =>
      cases kind with
      | rest => exact congrArg Holdings.stubs h
      | graphQl => exact congrArg Holdings.graphQl h
      | soap => exact congrArg Holdings.soap h
  | scenarios => exact congrArg Holdings.scenarios h
  | requests => exact congrArg Holdings.requests h

/-! ## Views and rows -/

section Views

variable (s : Console)

@[simp] theorem held_modifyView (f : ListView → ListView) : (s.modifyView f).held = s.held := by
  unfold modifyView
  split <;> rfl

@[simp] theorem held_modifyCursor (f : Nat → Nat) : (s.modifyCursor f).held = s.held := by
  unfold modifyCursor
  split
  · rfl
  · rfl
  · exact held_modifyView s _

@[simp] theorem held_modifySearch (f : String → String) : (s.modifySearch f).held = s.held := by
  unfold modifySearch
  split
  · rfl
  · exact held_modifyView s _

@[simp] theorem held_changeSearch (f : String → String) : (s.changeSearch f).held = s.held := by
  unfold changeSearch toFirstRow
  split
  · exact held_modifySearch s f
  · exact (held_modifyView _ _).trans (held_modifySearch s f)

@[simp] theorem held_selectNext : s.selectNext.held = s.held := by
  unfold selectNext
  dsimp only
  split
  · exact held_modifyCursor s _
  · exact held_modifyCursor s _
  · rfl
  · exact held_modifyView s _

@[simp] theorem held_selectPrev : s.selectPrev.held = s.held := by
  unfold selectPrev
  split
  · exact held_modifyCursor s _
  · exact held_modifyCursor s _
  · rfl
  · exact held_modifyView s _

@[simp] theorem held_cycleMethod : s.cycleMethod.held = s.held := by
  unfold cycleMethod
  split <;> rfl

@[simp] theorem held_changeJournal (f : JournalView → JournalView) :
    (s.changeJournal f).held = s.held := by
  unfold changeJournal
  split <;> rfl

end Views

/-! ## Actions -/

section Actions

variable (s : Console)

@[simp] theorem held_goTo (page : Page) : (s.goTo page).held = s.held :=
  held_modifyView s ListView.disarm

@[simp] theorem held_enterSearch : s.enterSearch.held = s.held := by
  unfold enterSearch
  split
  · exact held_modifyView s ListView.disarm
  · rfl

@[simp] theorem held_openEditor (editor : Editor) : (s.openEditor editor).held = s.held :=
  held_modifyView s ListView.disarm

@[simp] theorem held_openNew : s.openNew.held = s.held := by
  unfold openNew
  split
  · exact held_openEditor s _
  · rfl

@[simp] theorem held_openSelected : s.openSelected.held = s.held := by
  unfold openSelected
  split
  · exact held_openEditor s _
  · rfl

@[simp] theorem held_toggleJson : s.toggleJson.held = s.held := by
  unfold toggleJson
  split
  · rfl
  · dsimp only
    split <;> rfl

@[simp] theorem held_openDialog : s.openDialog.held = s.held := by
  unfold openDialog
  split <;> rfl

@[simp] theorem held_apply (action : Action) : (s.apply action).held = s.held := by
  cases action with
  | goTo page => exact held_goTo s page
  | nextPage => exact held_goTo s _
  | prevPage => exact held_goTo s _
  | selectNext => exact held_selectNext s
  | selectPrev => exact held_selectPrev s
  | enterSearch => exact held_enterSearch s
  | appendSearch text => exact held_changeSearch s _
  | backspaceSearch => exact held_changeSearch s _
  | clearSearch => exact held_changeSearch s _
  | cycleMethod => exact held_cycleMethod s
  | cycleStatus => exact held_changeJournal s _
  | toggleOrder => exact held_changeJournal s _
  | toggleDetails => exact held_changeJournal s _
  | openNew => exact held_openNew s
  | openSelected => exact held_openSelected s
  | toggleJson => exact held_toggleJson s
  | openDialog => exact held_openDialog s
  -- all others change a field of their own
  | _ => rfl

end Actions

/-! ## Typing -/

section Typing

variable (s : Console) (key : Key)

theorem held_handleSearchKey : (s.handleSearchKey key).held = s.held := by
  unfold handleSearchKey
  split
  · rfl
  · exact held_apply s .clearSearch
  · exact held_apply s .backspaceSearch
  · split
    · exact held_apply s _
    · split
      · exact held_apply s .clearSearch
      · rfl
  · rfl

@[simp] theorem held_storeLine (text : String) : (s.storeLine text).held = s.held := by
  unfold storeLine
  split <;> rfl

theorem held_handleLineKey : (s.handleLineKey key).held = s.held := by
  unfold handleLineKey
  split
  · rfl
  · split
    · rfl
    · exact held_storeLine s.closeLine _
    · rfl

theorem held_beginLineInput : s.beginLineInput.held = s.held := by
  unfold beginLineInput
  split <;> rfl

theorem held_commitField (e : Editor) : (s.commitField e).held = s.held := by
  unfold commitField
  split <;> rfl

theorem held_handleFieldKey : (s.handleFieldKey key).held = s.held := by
  unfold handleFieldKey
  split
  · rfl
  · split
    · rfl
    · split
      · rfl
      · split
        · exact held_commitField s _
        · rfl

theorem held_formatDocument (e : Editor) : (s.formatDocument e).held = s.held := by
  unfold formatDocument
  split
  · rfl
  · split <;> rfl

theorem held_typeDocument (e : Editor) : (s.typeDocument e key).held = s.held := by
  unfold typeDocument
  split
  · rfl
  · split <;> rfl

theorem held_handleJsonKey : (s.handleJsonKey key).1.held = s.held := by
  unfold handleJsonKey
  split
  · rfl
  next e _ =>
    split
    · rfl
    · split
      · rfl
      · split
        · exact held_formatDocument s e
        · exact held_typeDocument s key e

theorem held_startEditing : s.startEditing.held = s.held := by
  unfold startEditing
  split
  · rfl
  · split
    · rfl
    · split
      · rfl
      · dsimp only
        split <;> rfl

end Typing

/-! ## Keys -/

section Keys

variable (s : Console) (key : Key)

theorem held_handleDialogKey : (s.handleDialogKey key).1.held = s.held := by
  unfold handleDialogKey
  split
  · rfl
  · rfl
  · rfl
  · rfl
  · -- Enter asks for the state or shows what is wrong with it
    unfold submitDialog
    split
    · rfl
    · split
      · rfl
      · split <;> rfl
  · rfl

theorem PaneAnswer.held {s : Console} {r : KeyResult} (h : PaneAnswer s r) :
    r.1.held = s.held := by
  cases h with
  | act action _ => exact held_apply s action
  | edit => exact held_startEditing s
  | _ => rfl

theorem held_pressDelete (kind : StubKind) : (s.pressDelete kind).1.held = s.held := by
  unfold pressDelete
  split
  · rfl
  · dsimp only
    split <;> exact held_modifyView s _

theorem PageAnswer.held {s : Console} {key : Key} {r : KeyResult} (h : PageAnswer s key r) :
    r.1.held = s.held := by
  cases h with
  | act action => exact held_apply s action
  | line => exact held_beginLineInput s
  | disarm => exact held_modifyView s ListView.disarm
  | press kind _ _ => exact held_pressDelete s kind
  | _ => rfl

theorem held_handleKey : (s.handleKey key).1.held = s.held := by
  unfold handleKey
  split
  · exact held_handleSearchKey s key
  · split
    · exact held_handleFieldKey s key
    · exact held_handleLineKey s key
  · exact held_handleJsonKey s key
  · exact held_handleDialogKey s key
  · split
    · exact (paneAnswer_handleEditorKey s key).held
    · exact (pageAnswer_handleNormalKey s key).held

end Keys

end Console

end StubConsole
