import StubConsole.Proofs.Console.SaveUnderWay

/-!
# Failures — where the user is told of them

Each failed answer has one place for its text: the collection that it is about, a page, the notice,
the editor or the dialog.  The last two are there only while they are open, and a failure that finds
its place closed is told nowhere.

* `ErrorPlace`, `Console.errorsAt` — the places, and the errors that can be read there;
* `Task.place`, `Task.failure?` — where the failure of a task belongs, and its text;
* `Console.Offers` — the place is open;
* `Console.tells_finish_iff` — a failure is told exactly if it is;
* `ConsoleStep.mayClose`, `Console.offers_run` — and it stays open unless the user leaves it or what
  it was for is done;
* `Console.failure_told_iff` — failures of answers after any run.
-/

namespace StubConsole

/-! ## Places -/

/-- Where an error can be read. -/
inductive ErrorPlace where
  | editor
  | collection (c : Collection)
  | dashboard
  | recorder
  | dialog
  | transfer
  | settings
  | notice

def Notice.error? (n : Notice) : Option String :=
  if n.tone = .error then some n.text else none

namespace Console

/-- The errors that can be read at a place.  A dialog is drawn only while keys are meant for it. -/
def errorsAt (s : Console) : ErrorPlace → List String
  | .editor => (s.editor.active.map Editor.errors).getD []
  | .collection c => (s.collection c).error.toList
  | .dashboard => s.dashboard.error.toList
  | .recorder => s.recording.error.toList
  | .dialog =>
      if s.mode = .dialog then (s.scenarioPage.dialog.bind ScenarioDialog.error).toList else []
  | .transfer => (s.transfer.message.bind Notice.error?).toList
  | .settings => (s.settings.message.bind Notice.error?).toList
  | .notice => (s.notice.bind Notice.error?).toList

/-- The user can read the text as an error. -/
def Tells (s : Console) (text : String) : Prop := ∃ place, text ∈ s.errorsAt place

/-- An error can be put there.  Editor and dialog take one only while they are open. -/
def Offers (s : Console) : ErrorPlace → Prop
  | .editor => s.editor.isOpen = true
  | .dialog => s.mode = .dialog ∧ s.scenarioPage.dialog.isSome = true
  | _ => True

end Console

/-! ## Failures -/

namespace Task

/-- Where the failure of a task belongs. -/
def place : Task → ErrorPlace
  | .fetch c => .collection c
  | .fetchDashboard => .dashboard
  | .pollRecorder | .control _ _ => .recorder
  | .delete kind _ => .collection (.stubs kind)
  | .save _ | .execute _ => .editor
  | .checkWsdl _ => .notice
  | .moveScenario _ _ => .dialog
  | .resetScenarios => .collection .scenarios
  | .clearJournal => .collection .requests
  | .declineImport | .readSpec _ | .sendSpec _ | .fetchExport _ | .writeExport _ _ => .transfer

/-- The text of a failed answer.  The trial of a stub shows what it brings as a response, whether
it is a failure or not. -/
def failure? : (t : Task) → t.Outcome → Option String
  | .fetch _, .error cause => some cause.text
  | .fetchDashboard, .error cause => some cause.text
  | .pollRecorder, .error _ => some "Failed to fetch recording status"
  | .delete kind _, .error cause => some (cause.failureMessage ("delete " ++ kind.noun))
  | .save plan, .error cause => some (cause.failureMessage ("save " ++ plan.kind.noun))
  | .checkWsdl _, .error cause => some ("WSDL validation failed: " ++ cause.text)
  | .moveScenario _ _, .error cause => some (cause.failureMessage "update scenario")
  | .resetScenarios, .error cause => some (cause.failureMessage "reset scenarios")
  | .clearJournal, .error cause => some (cause.failureMessage "clear requests")
  | .control action _, .error cause => some (cause.failureMessage action.verb)
  | .readSpec path, .error detail => some (ImportError.unreadable path detail).message
  | .sendSpec _, .error cause => some (ImportError.rejected cause).message
  | .fetchExport _, .error cause => some (ExportError.notFetched cause).message
  | .writeExport dir _, .error (.directory detail) =>
      some (ExportError.noDirectory dir detail).message
  | .writeExport dir _, .error (.file detail) =>
      some (ExportError.notWritten (exportFile dir) detail).message
  | _, _ => none

end Task

namespace Console

section Answers

variable {s : Console} {t : Task} {r : t.Outcome} {text : String}

theorem mem_errorsAt_collection (c : Collection) {f : Cache c.Item → Cache c.Item}
    (h : (f (s.collection c)).error = some text) :
    text ∈ (s.modifyCollection c f).errorsAt (.collection c) := by
  rw [errorsAt, collection_modifyCollection_self, h]
  exact List.mem_singleton_self text

/-- A failure is told where it belongs, if that is open. -/
theorem mem_errorsAt_of_offers (h : t.failure? r = some text) (hoffers : s.Offers t.place) :
    text ∈ (s.finish t r).1.errorsAt t.place := by
  cases t with
  | fetch c =>
      cases r with
      | ok items => cases h
      | error cause => exact mem_errorsAt_collection c h
  | delete kind id =>
      cases r with
      | ok _ => cases h
      | error cause => exact mem_errorsAt_collection (.stubs kind) h
  | resetScenarios =>
      cases r with
      | ok _ => cases h
      | error cause => exact mem_errorsAt_collection .scenarios h
  | clearJournal =>
      cases r with
      | ok _ => cases h
      | error cause => exact mem_errorsAt_collection .requests h
  | save plan =>
      cases r with
      | ok item => cases h
      | error cause =>
          rcases Option.isSome_iff_exists.1 hoffers with ⟨e, hactive⟩
          cases h
          simp only [finish, finishSave, Task.place, errorsAt, active_modifyEditor hactive]
          exact List.mem_singleton_self _
  | moveScenario id state =>
      cases r with
      | ok _ => cases h
      | error cause =>
          rcases hoffers with ⟨hmode, hopen⟩
          rcases Option.isSome_iff_exists.1 hopen with ⟨d, hd⟩
          cases h
          simp only [finish, finishMove, Task.place, errorsAt, modifyDialog, hmode, hd]
          exact List.mem_singleton_self _
  | writeExport dir document =>
      cases r with
      | ok _ => cases h
      | error fault => cases fault <;> cases h <;> exact List.mem_singleton_self _
  | declineImport => cases h
  | execute request => cases h
  | _ =>
      cases r with
      | ok _ => cases h
      | error _ => cases h; exact List.mem_singleton_self _

theorem errorsAt_modifyDialog (hoffers : ¬s.Offers .dialog) (f : ScenarioDialog → ScenarioDialog)
    (place : ErrorPlace) : (s.modifyDialog f).errorsAt place = s.errorsAt place := by
  cases place with
  | dialog =>
      by_cases hmode : s.mode = .dialog
      · -- keys are for a dialog, so there is none
        have hnone : s.scenarioPage.dialog = none := by
          cases hopen : s.scenarioPage.dialog with
          | none => rfl
          | some d => exact absurd ⟨hmode, by rw [hopen]; rfl⟩ hoffers
        simp only [errorsAt, modifyDialog, hnone, Option.map_none]
      · simp only [errorsAt, modifyDialog, hmode, if_false]
  | collection c =>
      cases c with
      | stubs kind => cases kind <;> rfl
      | _ => rfl
  | _ => rfl

/-- A failure whose place is closed changes nothing that the user can read. -/
theorem errorsAt_finish_of_not_offers (h : t.failure? r = some text) (hoffers : ¬s.Offers t.place)
    (place : ErrorPlace) : (s.finish t r).1.errorsAt place = s.errorsAt place := by
  cases t with
  | save plan =>
      cases r with
      | ok item => cases h
      | error cause =>
          have hnone : s.editor.active = none :=
            EditorPane.isOpen_eq_false_iff.1 (Bool.eq_false_iff.2 hoffers)
          simp only [finish, finishSave, modifyEditor_eq_self hnone]
  | moveScenario id state =>
      cases r with
      | ok _ => cases h
      | error cause => exact errorsAt_modifyDialog hoffers _ place
  | execute request => cases h
  | _ => exact absurd trivial hoffers

theorem tells_finish_iff (h : t.failure? r = some text) :
    (s.finish t r).1.Tells text ↔ s.Offers t.place ∨ s.Tells text := by
  by_cases hoffers : s.Offers t.place
  · have htold : (s.finish t r).1.Tells text := ⟨t.place, mem_errorsAt_of_offers h hoffers⟩
    exact ⟨fun _ => .inl hoffers, fun _ => htold⟩
  · have hsame := errorsAt_finish_of_not_offers h hoffers
    unfold Tells
    simp only [hsame, hoffers, false_or]

/-- Only saves and moves of a scenario are told in a place that can be closed. -/
theorem offers_of_ne (h : t.failure? r = some text) (hsave : ∀ plan, t ≠ .save plan)
    (hmove : ∀ id state, t ≠ .moveScenario id state) : s.Offers t.place := by
  cases t with
  | save plan => exact absurd rfl (hsave plan)
  | moveScenario id state => exact absurd rfl (hmove id state)
  | execute request => cases h
  | _ => trivial

end Answers

/-! ## Until the answer comes -/

end Console

/-- The answer closes an editor or a dialog. -/
def Task.closes : (t : Task) → t.Outcome → Bool
  | .save _, .ok _ | .moveScenario _ _, .ok _ => true
  | _, _ => false

/-- The event may close an editor or a dialog: it is Escape, or the server has acknowledged what
they were for. -/
def ConsoleStep.mayClose : ConsoleStep → Bool
  | .press key => key.code = .escape
  | .finish t r => t.closes r
  | _ => false

namespace Console

/-- Editor and dialog are as open as they were, and keys are taken for the same. -/
structure SamePlaces (s t : Console) : Prop where
  mode : t.mode = s.mode
  isOpen : t.editor.isOpen = s.editor.isOpen
  dialog : t.scenarioPage.dialog.isSome = s.scenarioPage.dialog.isSome

namespace SamePlaces

variable {s t : Console}

theorem refl (s : Console) : SamePlaces s s := ⟨rfl, rfl, rfl⟩

theorem offers (h : SamePlaces s t) {place : ErrorPlace} (hs : s.Offers place) :
    t.Offers place := by
  cases place with
  | editor => exact h.isOpen.trans hs
  | dialog => exact ⟨h.mode.trans hs.1, h.dialog.trans hs.2⟩
  | _ => trivial

theorem modifyCollection (s : Console) (c : Collection) (f : Cache c.Item → Cache c.Item) :
    SamePlaces s (s.modifyCollection c f) where
  mode := mode_modifyCollection s c f
  isOpen := congrArg EditorPane.isOpen (editor_modifyCollection s c f)
  dialog := congrArg (·.dialog.isSome) (scenarioPage_modifyCollection s c f)

theorem modifyDialog (s : Console) (f : ScenarioDialog → ScenarioDialog) :
    SamePlaces s (s.modifyDialog f) := ⟨rfl, rfl, Option.isSome_map⟩

theorem notify (h : SamePlaces s t) (notice : Notice) : SamePlaces s (t.notify notice) :=
  ⟨h.mode, h.isOpen, h.dialog⟩

theorem of_begun (h : Begun s t) : SamePlaces s t :=
  ⟨h.mode, h.isOpen, congrArg Option.isSome h.dialog⟩

theorem startRefresh (s : Console) (page : Page) : SamePlaces s (s.startRefresh page).1 := by
  unfold Console.startRefresh
  split
  · exact modifyCollection ..
  · split <;> exact ⟨rfl, rfl, rfl⟩

theorem begin (s : Console) (config : Config) (command : Command) :
    SamePlaces s (s.begin config command).1 := by
  rcases begin_cases s config command with rfl | ⟨id, state, rfl⟩ | hbegun
  · exact startRefresh ..
  · exact modifyDialog ..
  · exact of_begun hbegun

theorem finish (s : Console) (t : Task) (r : t.Outcome) (h : t.closes r = false) :
    SamePlaces s (s.finish t r).1 := by
  cases t with
  | fetch c => cases r <;> exact modifyCollection ..
  | delete kind id =>
      cases r with
      | ok _ => exact (modifyCollection s (.stubs kind) _).notify _
      | error cause => exact modifyCollection s (.stubs kind) _
  | save plan =>
      cases r with
      | ok item => cases h
      | error cause => exact of_begun (.modifyEditor s _)
  | moveScenario id state =>
      cases r with
      | ok _ => cases h
      | error cause => exact modifyDialog ..
  | declineImport => exact ⟨rfl, rfl, rfl⟩
  | execute request => exact ⟨rfl, rfl, rfl⟩
  | writeExport dir document =>
      cases r with
      | ok _ => exact ⟨rfl, rfl, rfl⟩
      | error fault => cases fault <;> exact ⟨rfl, rfl, rfl⟩
  | _ => cases r <;> exact ⟨rfl, rfl, rfl⟩

theorem settingsStored (s : Console) (before : Config) (r : Except SettingsFault Config) :
    SamePlaces s (s.settingsStored before r) := by
  cases r with
  | error cause => exact ⟨rfl, rfl, rfl⟩
  | ok after =>
      simp only [Console.settingsStored]
      split <;> exact ⟨rfl, rfl, rfl⟩

end SamePlaces

section Keys

variable {s : Console} {key : Key}

/-- An open editor is left by Escape and by no other key. -/
theorem isOpen_handleEditorKey (s : Console) (hescape : key.code ≠ .escape) :
    (s.handleEditorKey key).1.editor.isOpen = s.editor.isOpen := by
  by_cases htoggle : key.code = .char 'J'
  · have hkey : s.handleEditorKey key = s.act .toggleJson := by
      simp [handleEditorKey, htoggle]
    rw [hkey]
    exact (InPane.toggleJson s).isOpen
  · have hanswer := formAnswer_handleEditorKey s hescape htoggle
    generalize s.handleEditorKey key = result at hanswer ⊢
    cases hanswer with
    | move action haction =>
        cases action <;> first
          | exact EditorPane.isOpen_modify ..
          | rfl
          | cases haction
    | edit => exact (InPane.startEditing s).isOpen
    | stay command => rfl

theorem isOpen_handleKey (hopen : s.editor.isOpen = true) (hescape : key.code ≠ .escape) :
    (s.handleKey key).1.editor.isOpen = true := by
  unfold handleKey
  split
  next => exact (congrArg EditorPane.isOpen (editor_handleSearchKey s key)).trans hopen
  next =>
    split
    · exact (InPane.handleFieldKey s key).isOpen.trans hopen
    · exact (congrArg EditorPane.isOpen (editor_handleLineKey s key)).trans hopen
  next => exact (InPane.handleJsonKey s key).isOpen.trans hopen
  next => exact (congrArg EditorPane.isOpen (editor_handleDialogKey s key)).trans hopen
  next =>
    -- with an editor open, keys in normal mode are for it and not for the page
    rw [if_pos hopen]
    exact (isOpen_handleEditorKey s hescape).trans hopen

theorem samePlaces_handleDialogKey (s : Console) (hescape : key.code ≠ .escape) :
    SamePlaces s (s.handleDialogKey key).1 := by
  unfold handleDialogKey
  split
  next hcode => exact absurd hcode hescape
  next => exact .modifyDialog ..
  next => exact .modifyDialog ..
  next => exact .modifyDialog ..
  next =>
    unfold submitDialog
    split
    · exact .refl s
    · split
      · exact .refl s
      · split
        · exact .refl s
        · exact .modifyDialog ..
  next => exact .modifyDialog ..

theorem offers_handleKey {place : ErrorPlace} (h : s.Offers place) (hescape : key.code ≠ .escape) :
    (s.handleKey key).1.Offers place := by
  cases place with
  | editor => exact isOpen_handleKey h hescape
  | dialog =>
      have hkey : s.handleKey key = s.handleDialogKey key := by simp only [handleKey, h.1]
      rw [hkey]
      exact (samePlaces_handleDialogKey s hescape).offers h
  | _ => trivial

end Keys

theorem offers_after {s : Console} {place : ErrorPlace} (h : s.Offers place) {step : ConsoleStep}
    (hstep : step.mayClose = false) : (s.after step).Offers place := by
  cases step with
  | press key => exact offers_handleKey h (of_decide_eq_false hstep)
  | begin config command => exact (SamePlaces.begin s config command).offers h
  | refresh page => exact (SamePlaces.startRefresh s page).offers h
  | ensure =>
      simp only [after, startEnsure]
      split
      · exact (SamePlaces.startRefresh s s.page).offers h
      · exact h
  | finish t r => exact (SamePlaces.finish s t r hstep).offers h
  | change c f => exact (SamePlaces.modifyCollection s c f).offers h
  | clamp =>
      have hfocus := SameFocus.modifyCursor s (ListView.clampTo s.visibleCount)
      refine SamePlaces.offers ?_ h
      exact ⟨hfocus.mode, congrArg EditorPane.isOpen hfocus.editor,
        congrArg Option.isSome hfocus.dialog⟩
  | storeSettings before result => exact (SamePlaces.settingsStored s before result).offers h
  | copied source result => cases result <;> exact SamePlaces.offers ⟨rfl, rfl, rfl⟩ h
  | copyFaded => exact SamePlaces.offers ⟨rfl, rfl, rfl⟩ h

theorem offers_run {s : Console} {place : ErrorPlace} (h : s.Offers place)
    (steps : List ConsoleStep) (hsteps : ∀ step ∈ steps, step.mayClose = false) :
    (s.run steps).Offers place := by
  induction steps generalizing s with
  | nil => exact h
  | cons step rest ih =>
      have hstep : (s.after step).Offers place :=
        offers_after h (hsteps step List.mem_cons_self)
      exact ih hstep fun other hother => hsteps other (List.mem_cons_of_mem step hother)

/-- An answer fails after any run.  The user is told if the place of the failure is open then, and
otherwise nothing that can be read changes.  The place is open if it was so at the start and nothing
since could close it, and those of all but saves and moves of a scenario are open always. -/
theorem failure_told_iff (s : Console) (steps : List ConsoleStep) {t : Task} {r : t.Outcome}
    {text : String} (h : t.failure? r = some text) :
    let u := s.run steps
    let v := (u.finish t r).1
    (v.Tells text ↔ u.Offers t.place ∨ u.Tells text)
      ∧ (u.Offers t.place → text ∈ v.errorsAt t.place)
      ∧ (¬u.Offers t.place → ∀ place, v.errorsAt place = u.errorsAt place)
      ∧ (s.Offers t.place → (∀ step ∈ steps, step.mayClose = false) → u.Offers t.place)
      ∧ ((∀ plan, t ≠ .save plan) → (∀ id state, t ≠ .moveScenario id state) →
          u.Offers t.place) := by
  intro u v
  refine ⟨tells_finish_iff h, mem_errorsAt_of_offers h, errorsAt_finish_of_not_offers h, ?_,
    offers_of_ne h⟩
  intro hs hsteps
  exact offers_run hs steps hsteps

/-- A server that gives up. -/
def overloaded : ApiError := .server 503 "overloaded"

/-- A save fails after its editor was moved about in, a fetch after its page was left. -/
theorem failure_told_overloaded :
    let u := newStub.run [.begin .default .saveEditor, .press (.ofChar 'J'), .ensure]
    let v := newStub.run [.press (.plain .escape), .refresh .requests, .press (.plain .tab)]
    "Failed to save stub: overloaded"
        ∈ (u.finish (.save (.ofItem .rest .fresh)) (.error overloaded)).1.errorsAt .editor
      ∧ (v.finish (.fetch .requests) (.error overloaded)).1.Tells "overloaded" := by
  intro u v
  have hsave : Task.failure? (.save (.ofItem .rest .fresh)) (.error overloaded)
      = some "Failed to save stub: overloaded" := by
    decide +kernel
  have hfetch : Task.failure? (.fetch .requests) (.error overloaded) = some "overloaded" := rfl
  have hopen : newStub.editor.isOpen = true := by decide +kernel
  rcases failure_told_iff newStub [.begin .default .saveEditor, .press (.ofChar 'J'), .ensure]
    hsave with ⟨-, hat, -, hkept, -⟩
  rcases failure_told_iff newStub
    [.press (.plain .escape), .refresh .requests, .press (.plain .tab)] hfetch
    with ⟨htold, -, -, -, hother⟩
  refine ⟨hat (hkept hopen ?_), htold.2 (.inl (hother (fun _ => nofun) fun _ _ => nofun))⟩
  simp only [List.mem_cons, List.not_mem_nil, or_false]
  rintro step (rfl | rfl | rfl) <;> rfl

/-- A scenario under the cursor of its page. -/
def oneScenario : Console :=
  { initial with
    page := .scenarios
    scenarios.items := [⟨"1", "door", "Closed", ["Closed", "Open"]⟩] }

/-- A save fails after its editor was closed, a move of a scenario after its dialog was: there is
no error to be read anywhere. -/
theorem late_failures_untold :
    let u := newStub.run [.begin .default .saveEditor, .press (.plain .escape)]
    let v := oneScenario.run [.press (.ofChar 'e'),
      .begin .default (.setScenarioState "1" "Open"), .press (.plain .escape)]
    (newStub.begin .default .saveEditor).2 = some (.save (.ofItem .rest .fresh))
      ∧ (∀ place,
          (u.finish (.save (.ofItem .rest .fresh)) (.error overloaded)).1.errorsAt place = [])
      ∧ ∀ place,
          (v.finish (.moveScenario "1" "Open") (.error overloaded)).1.errorsAt place = [] := by
  intro u v
  refine ⟨by decide +kernel, fun place => ?_, fun place => ?_⟩
  all_goals
    cases place with
    | collection c =>
        cases c with
        | stubs kind => cases kind <;> decide +kernel
        | _ => decide +kernel
    | _ => decide +kernel

end Console

end StubConsole
