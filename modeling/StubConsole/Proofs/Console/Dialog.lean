import StubConsole.Proofs.Console.Pane

/-!
# Dialog — what happens to the open dialog

A key on the page of scenarios opens the dialog of the one under the cursor.  From then on the
dialog is of that scenario, whatever is typed or answered, until it is closed.

* `ScenarioDialog.KeyTurn`, `ScenarioDialog.Turn` — what keys and other events make of a dialog;
* `Console.opens?` — the scenario whose dialog an event opens;
* `Console.dialogTurn_handleKey` — what keys do to the dialog;
* `Console.dialogTurn_after` — and all other events;
* `Console.dialogStep_after` — in short, the dialog stays one of its scenario.
-/

namespace StubConsole

/-! ## Steps of the dialog -/

/-- The actions that open, change or close a dialog. -/
def Action.ofDialog : Action → Bool
  | .openDialog | .closeDialog | .pickState _ => true
  | _ => false

/-- A step changes the place and the text. -/
theorem ScenarioDialog.exists_pick_eq (d : ScenarioDialog) (direction : Direction) :
    ∃ picked input, d.pick direction = { d with picked, input } := by
  unfold pick
  dsimp only
  split
  · exact ⟨_, _, rfl⟩
  · exact ⟨d.picked, d.input, rfl⟩

theorem ScenarioDialog.id_pick (d : ScenarioDialog) (direction : Direction) :
    (d.pick direction).id = d.id := by
  rcases d.exists_pick_eq direction with ⟨picked, input, h⟩
  rw [h]

theorem ScenarioDialog.possibleStates_pick (d : ScenarioDialog) (direction : Direction) :
    (d.pick direction).possibleStates = d.possibleStates := by
  rcases d.exists_pick_eq direction with ⟨picked, input, h⟩
  rw [h]

theorem ScenarioDialog.saving_pick (d : ScenarioDialog) (direction : Direction) :
    (d.pick direction).saving = d.saving := by
  rcases d.exists_pick_eq direction with ⟨picked, input, h⟩
  rw [h]

/-- What keys make of an open dialog: another state is picked, or the text changes and nothing is
picked any more, or the dialog says why it asks for nothing. -/
inductive ScenarioDialog.KeyTurn (d : ScenarioDialog) : ScenarioDialog → Prop where
  | stepped (direction : ScenarioDialog.Direction) :
      KeyTurn d { d.pick direction with error := none }
  | typed {key : Key} {input : TextBuffer} (h : d.input.pressKey? key = some input) :
      KeyTurn d { d with input, picked := none, error := none }
  | told (error : Option String) : KeyTurn d { d with error }

/-- What any event makes of an open dialog: calls that begin or fail mark it. -/
inductive ScenarioDialog.Turn (d : ScenarioDialog) : ScenarioDialog → Prop where
  | key {e : ScenarioDialog} (h : d.KeyTurn e) : Turn d e
  | marked (error : Option String) (saving : Bool) : Turn d { d with error, saving }

theorem ScenarioDialog.KeyTurn.refl (d : ScenarioDialog) : d.KeyTurn d := .told d.error

theorem ScenarioDialog.Turn.refl (d : ScenarioDialog) : d.Turn d := .key (.refl d)

/-- The dialog is closed, or goes on as the relation says, or is the one of a chosen scenario. -/
inductive DialogTurn (R : ScenarioDialog → ScenarioDialog → Prop) (chosen : Option Scenario) :
    Option ScenarioDialog → Option ScenarioDialog → Prop where
  | closed (p : Option ScenarioDialog) : DialogTurn R chosen p none
  | turned {d e : ScenarioDialog} (h : R d e) : DialogTurn R chosen (some d) (some e)
  | opened (p : Option ScenarioDialog) (scenario : Scenario) (h : chosen = some scenario) :
      DialogTurn R chosen p (some (.opened scenario))

namespace DialogTurn

variable {R R' : ScenarioDialog → ScenarioDialog → Prop} {chosen : Option Scenario}
variable {p q : Option ScenarioDialog}

theorem modified {f : ScenarioDialog → ScenarioDialog} (hf : ∀ d, R d (f d)) :
    DialogTurn R chosen p (p.map f) := by
  cases p with
  | none => exact .closed none
  | some d => exact .turned (hf d)

theorem of_eq (hR : ∀ d, R d d) (h : q = p) : DialogTurn R chosen p q := by
  have hsame : DialogTurn R chosen p (p.map fun d => d) := .modified hR
  rw [Option.map_id'] at hsame
  rw [h]
  exact hsame

theorem mono (hR : ∀ d e, R d e → R' d e) (h : DialogTurn R chosen p q) :
    DialogTurn R' chosen p q := by
  cases h with
  | closed => exact .closed p
  | turned h => exact .turned (hR _ _ h)
  | opened _ scenario hchosen => exact .opened p scenario hchosen

end DialogTurn

/-- What can happen to a dialog when the one of a chosen scenario, if any, may be opened. -/
inductive DialogStep (chosen : Option Scenario) (p : Option ScenarioDialog) :
    Option ScenarioDialog → Prop where
  | closed : DialogStep chosen p none
  | changed (f : ScenarioDialog → ScenarioDialog) (hf : ∀ d, (f d).id = d.id) :
      DialogStep chosen p (p.map f)
  | opened (scenario : Scenario) (h : chosen = some scenario) :
      DialogStep chosen p (some (.opened scenario))

namespace ScenarioDialog

variable {d e : ScenarioDialog}

theorem KeyTurn.saving_eq (h : d.KeyTurn e) : e.saving = d.saving := by
  cases h with
  | stepped direction => exact d.saving_pick direction
  | typed => rfl
  | told => rfl

theorem Turn.id_eq (h : d.Turn e) : e.id = d.id := by
  cases h with
  | key h =>
      cases h with
      | stepped direction => exact d.id_pick direction
      | typed => rfl
      | told => rfl
  | marked => rfl

theorem Turn.possibleStates_eq (h : d.Turn e) : e.possibleStates = d.possibleStates := by
  cases h with
  | key h =>
      cases h with
      | stepped direction => exact d.possibleStates_pick direction
      | typed => rfl
      | told => rfl
  | marked => rfl

end ScenarioDialog

theorem DialogTurn.step {chosen : Option Scenario} {p q : Option ScenarioDialog}
    (h : DialogTurn ScenarioDialog.Turn chosen p q) : DialogStep chosen p q := by
  cases h with
  | closed => exact .closed
  | @turned d e h =>
      have hchanged : DialogStep chosen (some d) ((some d).map fun x => { e with id := x.id }) :=
        .changed _ fun _ => rfl
      rw [Option.map_some, ← h.id_eq] at hchanged
      exact hchanged
  | opened _ scenario hchosen => exact .opened scenario hchosen

namespace Console

variable (s : Console)

/-! ## Actions -/

theorem InPane.dialog {s t : Console} (h : InPane s t) :
    t.scenarioPage.dialog = s.scenarioPage.dialog :=
  congrArg (·.scenarioPage.dialog) h.eq

theorem dialog_apply {action : Action} (h : action.ofDialog = false) :
    (s.apply action).scenarioPage.dialog = s.scenarioPage.dialog := by
  cases action with
  | goTo page => exact (SameFocus.modifyView s _).dialog
  | nextPage => exact (SameFocus.modifyView s _).dialog
  | prevPage => exact (SameFocus.modifyView s _).dialog
  | selectNext => exact (SameFocus.selectNext s).dialog
  | selectPrev => exact (SameFocus.selectPrev s).dialog
  | appendSearch text => exact (SameFocus.changeSearch s _).dialog
  | backspaceSearch => exact (SameFocus.changeSearch s _).dialog
  | clearSearch => exact (SameFocus.changeSearch s _).dialog
  | cycleMethod => exact (SameFocus.cycleMethod s).dialog
  | cycleStatus => exact (SameFocus.changeJournal s _).dialog
  | toggleOrder => exact (SameFocus.changeJournal s _).dialog
  | toggleDetails => exact (SameFocus.changeJournal s _).dialog
  | enterSearch =>
      simp only [apply, enterSearch]
      split
      · exact (SameFocus.modifyView s _).dialog
      · rfl
  | openNew =>
      simp only [apply, openNew]
      split
      · exact (SameFocus.modifyView s _).dialog
      · rfl
  | openSelected =>
      simp only [apply, openSelected]
      split
      · exact (SameFocus.modifyView s _).dialog
      · rfl
  | toggleJson => exact (InPane.toggleJson s).dialog
  | openDialog => cases h
  | closeDialog => cases h
  | pickState direction => cases h
  | _ => rfl

theorem dialogTurn_openDialog :
    DialogTurn ScenarioDialog.KeyTurn s.selectedScenario? s.scenarioPage.dialog
      s.openDialog.scenarioPage.dialog := by
  unfold openDialog
  split
  next scenario hscenario => exact .opened _ scenario hscenario
  next => exact .of_eq .refl rfl

/-! ## Keys -/

/-- The keys that open a dialog on the page of scenarios. -/
def isOpenDialog (key : Key) : Bool := key.code = .enter || key.code = .char 'e'

section Keys

variable (key : Key)

theorem dialog_handleSearchKey :
    (s.handleSearchKey key).scenarioPage.dialog = s.scenarioPage.dialog := by
  rcases SameFocus.handleSearchKey s key with ⟨_, hfocus⟩
  exact hfocus.dialog

theorem dialog_handleLineKey :
    (s.handleLineKey key).scenarioPage.dialog = s.scenarioPage.dialog := by
  rcases SameFocus.handleLineKey s key with ⟨_, _, hfocus⟩
  exact hfocus.dialog

/-- No key for an editor is for a dialog. -/
theorem dialog_handleEditorKey :
    (s.handleEditorKey key).1.scenarioPage.dialog = s.scenarioPage.dialog := by
  have hanswer := paneAnswer_handleEditorKey s key
  generalize s.handleEditorKey key = result at hanswer ⊢
  cases hanswer with
  | act action hof =>
      refine dialog_apply s ?_
      cases action <;> first | rfl | cases hof
  | edit => exact (InPane.startEditing s).dialog
  | _ => rfl

theorem dialogTurn_handleDialogKey (chosen : Option Scenario) :
    DialogTurn ScenarioDialog.KeyTurn chosen s.scenarioPage.dialog
      (s.handleDialogKey key).1.scenarioPage.dialog := by
  unfold handleDialogKey
  split
  next => exact .closed _
  next => exact .modified fun _ => .stepped _
  next => exact .modified fun _ => .stepped _
  next => exact .modified fun _ => .stepped _
  next =>
    unfold submitDialog
    split
    next => exact .of_eq .refl rfl
    next =>
      split
      · exact .of_eq .refl rfl
      · split
        · exact .of_eq .refl rfl
        · exact .modified fun _ => .told _
  next =>
    refine .modified ?_
    intro d
    split
    next input hinput => exact .typed hinput
    next => exact .refl d

theorem dialog_pressDelete (kind : StubKind) :
    (s.pressDelete kind).1.scenarioPage.dialog = s.scenarioPage.dialog := by
  unfold pressDelete
  split
  · rfl
  · dsimp only
    split <;> exact (SameFocus.modifyView s _).dialog

theorem dialog_beginLineInput :
    s.beginLineInput.scenarioPage.dialog = s.scenarioPage.dialog := by
  unfold beginLineInput
  split <;> rfl

theorem dialog_handleStubsKey (kind : StubKind) :
    (s.handleStubsKey kind key).1.scenarioPage.dialog = s.scenarioPage.dialog := by
  unfold handleStubsKey
  split
  · exact dialog_apply s rfl
  · exact (SameFocus.modifyView s _).dialog
  · exact dialog_apply s rfl
  · exact dialog_apply s rfl
  · exact dialog_apply s rfl
  · exact dialog_apply s rfl
  · unfold copyStub
    split <;> rfl
  · exact dialog_pressDelete s kind
  · rfl

/-- Of the pages only the one of scenarios has keys for a dialog. -/
theorem dialog_handlePageKey (h : ¬(s.page = .scenarios ∧ isOpenDialog key = true)) :
    (s.handlePageKey key).1.scenarioPage.dialog = s.scenarioPage.dialog := by
  unfold handlePageKey
  split
  · exact dialog_apply s rfl
  · exact dialog_apply s rfl
  · exact dialog_apply s rfl
  · exact dialog_apply s rfl
  · split
    next => rfl
    next => exact dialog_handleStubsKey s key .rest
    next => exact dialog_handleStubsKey s key .graphQl
    next => exact dialog_handleStubsKey s key .soap
    next hpage =>
      unfold handleScenariosKey
      split
      next hcode => exact absurd ⟨hpage, by simp [isOpenDialog, hcode]⟩ h
      next hcode => exact absurd ⟨hpage, by simp [isOpenDialog, hcode]⟩ h
      next => rfl
      next => rfl
    next =>
      unfold handleJournalKey
      split <;> first | exact dialog_apply s rfl | rfl
    next =>
      unfold handleRecordingKey
      split <;> first | exact dialog_beginLineInput s | rfl
    next =>
      unfold handleTransferKey
      split <;> first | exact dialog_beginLineInput s | rfl
    next =>
      unfold handleSettingsKey
      split <;> first | exact dialog_beginLineInput s | rfl

theorem dialog_handleNormalKey (h : ¬(s.page = .scenarios ∧ isOpenDialog key = true)) :
    (s.handleNormalKey key).1.scenarioPage.dialog = s.scenarioPage.dialog := by
  unfold handleNormalKey
  split
  · exact dialog_apply s rfl
  · exact dialog_apply s rfl
  · split
    · rfl
    · split
      · rfl
      · split
        · exact dialog_apply s rfl
        · exact dialog_handlePageKey s key h
  · exact dialog_handlePageKey s key h

theorem handleNormalKey_openDialog (hpage : s.page = .scenarios)
    (hkey : isOpenDialog key = true) : s.handleNormalKey key = s.act .openDialog := by
  have hdigit : Page.ofDigit? 'e' = none := by decide
  have hcode : key.code = .enter ∨ key.code = .char 'e' := by simpa [isOpenDialog] using hkey
  rcases hcode with hcode | hcode
  · simp only [handleNormalKey, handlePageKey, handleScenariosKey, hcode, hpage]
  · simp [handleNormalKey, handlePageKey, handleScenariosKey, hcode, hpage, hdigit]

end Keys

/-! ## All events -/

/-- The scenario whose dialog an event opens. -/
def opens? : ConsoleStep → Option Scenario
  | .press key =>
      if s.mode = .normal && !s.editor.isOpen && s.page = .scenarios && isOpenDialog key then
        s.selectedScenario?
      else none
  | _ => none

theorem dialogTurn_handleKey (key : Key) :
    DialogTurn ScenarioDialog.KeyTurn (s.opens? (.press key)) s.scenarioPage.dialog
      (s.handleKey key).1.scenarioPage.dialog := by
  unfold handleKey
  split
  next => exact .of_eq .refl (dialog_handleSearchKey s key)
  next =>
    split
    · exact .of_eq .refl (InPane.handleFieldKey s key).dialog
    · exact .of_eq .refl (dialog_handleLineKey s key)
  next => exact .of_eq .refl (InPane.handleJsonKey s key).dialog
  next => exact dialogTurn_handleDialogKey s key _
  next hmode =>
    split
    next => exact .of_eq .refl (dialog_handleEditorKey s key)
    next hclosed =>
      by_cases h : s.page = .scenarios ∧ isOpenDialog key = true
      · -- the one key of a page that is for a dialog
        have hchosen : s.opens? (.press key) = s.selectedScenario? := by
          simp [opens?, hmode, hclosed, h.1, h.2]
        rw [hchosen, handleNormalKey_openDialog s key h.1 h.2]
        exact dialogTurn_openDialog s
      · exact .of_eq .refl (dialog_handleNormalKey s key h)

theorem dialog_modifyCollection (c : Collection) (f : Cache c.Item → Cache c.Item) :
    (s.modifyCollection c f).scenarioPage.dialog = s.scenarioPage.dialog := by
  rw [scenarioPage_modifyCollection]

theorem dialog_startRefresh (page : Page) :
    (s.startRefresh page).1.scenarioPage.dialog = s.scenarioPage.dialog := by
  unfold startRefresh
  split
  · exact dialog_modifyCollection ..
  · split <;> rfl

theorem dialogTurn_begin (config : Config) (command : Command) :
    DialogTurn ScenarioDialog.Turn none s.scenarioPage.dialog
      (s.begin config command).1.scenarioPage.dialog := by
  rcases begin_cases s config command with rfl | ⟨id, state, rfl⟩ | hbegun
  · exact .of_eq .refl (dialog_startRefresh s s.page)
  · exact .modified fun _ => .marked _ _
  · exact .of_eq .refl hbegun.dialog

theorem dialogTurn_finish (t : Task) (r : t.Outcome) :
    DialogTurn ScenarioDialog.Turn none s.scenarioPage.dialog
      (s.finish t r).1.scenarioPage.dialog := by
  cases t with
  | fetch c =>
      cases r <;> exact .of_eq .refl (dialog_modifyCollection s c _)
  | delete kind id =>
      cases r <;> exact .of_eq .refl (dialog_modifyCollection s (.stubs kind) _)
  | save plan =>
      cases r with
      | ok item => exact .of_eq .refl (dialog_modifyCollection s (.stubs plan.kind) _)
      | error cause => exact .of_eq .refl rfl
  | moveScenario id state =>
      cases r with
      -- the answer is not compared with the dialog: whatever is open is closed, or marked
      | ok _ => exact .closed _
      | error cause => exact .modified fun _ => .marked _ _
  | declineImport => exact .of_eq .refl rfl
  | execute request => exact .of_eq .refl rfl
  | writeExport dir document =>
      cases r with
      | ok _ => exact .of_eq .refl rfl
      | error fault => cases fault <;> exact .of_eq .refl rfl
  | _ => cases r <;> exact .of_eq .refl rfl

theorem dialog_settingsStored (before : Config) (r : Except SettingsFault Config) :
    (s.settingsStored before r).scenarioPage.dialog = s.scenarioPage.dialog := by
  cases r with
  | error cause => rfl
  | ok after =>
      simp only [settingsStored]
      split <;> rfl

theorem dialogTurn_after (step : ConsoleStep) :
    DialogTurn ScenarioDialog.Turn (s.opens? step) s.scenarioPage.dialog
      (s.after step).scenarioPage.dialog := by
  cases step with
  | press key => exact (dialogTurn_handleKey s key).mono fun _ _ => .key
  | begin config command => exact dialogTurn_begin s config command
  | finish t r => exact dialogTurn_finish s t r
  | refresh page => exact .of_eq .refl (dialog_startRefresh s page)
  | ensure =>
      refine .of_eq .refl ?_
      simp only [after, startEnsure]
      split
      · exact dialog_startRefresh s s.page
      · rfl
  | change c f => exact .of_eq .refl (dialog_modifyCollection s c f)
  | clamp => exact .of_eq .refl (SameFocus.modifyCursor s _).dialog
  | storeSettings before result => exact .of_eq .refl (dialog_settingsStored s before result)
  | copied source result => cases result <;> exact .of_eq .refl rfl
  | copyFaded => exact .of_eq .refl rfl

theorem dialogStep_after (step : ConsoleStep) :
    DialogStep (s.opens? step) s.scenarioPage.dialog (s.after step).scenarioPage.dialog :=
  (dialogTurn_after s step).step

end Console

end StubConsole
