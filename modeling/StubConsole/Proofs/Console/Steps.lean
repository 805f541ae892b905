import StubConsole.Console.Begin
import StubConsole.Proofs.Console.Focus

/-!
# Steps — the console under any sequence of events

Between two keys anything can arrive: answers of tasks in any order and with any outcome, a change
of a collection, a redraw that brings the cursor back to a row.

* `ConsoleStep` — one event;
* `Console.after`, `Console.run` — the console after one and after many;
* `Console.tally` — how many events of a run pass a test;
* `Console.Undisturbed` — page and lists stay, nothing opens: so it is with every event that is
  neither a key nor a move of the cursor;
* `Console.Elsewhere` — the editor stays too: so it is unless the event is of an editor's own call;
* `Console.Begun` — what was fetched and what is open stay: so it is when most calls begin.
-/

namespace StubConsole

/-! ## Steps -/

inductive ConsoleStep where
  | press (key : Key)
  | begin (config : Config) (command : Command)
  /-- A page asks for what it shows. -/
  | refresh (page : Page)
  | ensure
  | finish (task : Task) (outcome : task.Outcome)
  /-- Any change of a collection. -/
  | change (c : Collection) (change : Cache c.Item → Cache c.Item)
  | clamp
  | storeSettings (before : Config) (result : Except SettingsFault Config)
  | copied (source : CopySource) (result : Except String Unit)
  | copyFaded

namespace Console

def after (s : Console) : ConsoleStep → Console
  | .press key => (s.handleKey key).1
  | .begin config command => (s.begin config command).1
  | .refresh page => (s.startRefresh page).1
  | .ensure => s.startEnsure.1
  | .finish task outcome => (s.finish task outcome).1
  | .change c change => s.modifyCollection c change
  | .clamp => s.clampSelection
  | .storeSettings before result => s.settingsStored before result
  | .copied source result => s.copyFinished source result
  | .copyFaded => { s with copied := false }

def run (s : Console) (steps : List ConsoleStep) : Console :=
  steps.foldl after s

@[simp] theorem run_nil (s : Console) : s.run [] = s := rfl

@[simp] theorem run_append (s : Console) (first second : List ConsoleStep) :
    s.run (first ++ second) = (s.run first).run second :=
  List.foldl_append

@[simp] theorem run_cons (s : Console) (step : ConsoleStep) (steps : List ConsoleStep) :
    s.run (step :: steps) = (s.after step).run steps := rfl

/-- What holds at the start and is kept by each step holds after any run. -/
theorem run_induction {P : Console → Prop} (hstep : ∀ s step, P s → P (s.after step))
    {s : Console} (h : P s) (steps : List ConsoleStep) : P (s.run steps) := by
  induction steps generalizing s with
  | nil => exact h
  | cons step steps ih => exact ih (hstep s step h)

/-- How many events of a run pass a test, each of them tested on the console that it meets. -/
def tally (test : Console → ConsoleStep → Bool) (s : Console) : List ConsoleStep → Nat
  | [] => 0
  | step :: rest => (test s step).toNat + tally test (s.after step) rest

@[simp] theorem tally_nil (test : Console → ConsoleStep → Bool) (s : Console) :
    s.tally test [] = 0 := rfl

@[simp] theorem tally_cons (test : Console → ConsoleStep → Bool) (s : Console)
    (step : ConsoleStep) (rest : List ConsoleStep) :
    s.tally test (step :: rest) = (test s step).toNat + (s.after step).tally test rest := rfl

/-! ## Parts of the console that a change leaves alone -/

section Parts

variable (s : Console)

@[simp] theorem page_modifyCollection (c : Collection) (f : Cache c.Item → Cache c.Item) :
    (s.modifyCollection c f).page = s.page := by
  cases c with
  | stubs kind => cases kind <;> rfl
  | _ => rfl

@[simp] theorem mode_modifyCollection (c : Collection) (f : Cache c.Item → Cache c.Item) :
    (s.modifyCollection c f).mode = s.mode := by
  cases c with
  | stubs kind => cases kind <;> rfl
  | _ => rfl

@[simp] theorem editor_modifyCollection (c : Collection) (f : Cache c.Item → Cache c.Item) :
    (s.modifyCollection c f).editor = s.editor := by
  cases c with
  | stubs kind => cases kind <;> rfl
  | _ => rfl

@[simp] theorem viewOf_modifyCollection (c : Collection) (f : Cache c.Item → Cache c.Item)
    (kind : StubKind) : (s.modifyCollection c f).viewOf kind = s.viewOf kind := by
  cases c with
  | stubs other => cases other <;> cases kind <;> rfl
  | _ => cases kind <;> rfl

@[simp] theorem lineInput_modifyCollection (c : Collection) (f : Cache c.Item → Cache c.Item) :
    (s.modifyCollection c f).lineInput = s.lineInput := by
  cases c with
  | stubs kind => cases kind <;> rfl
  | _ => rfl

@[simp] theorem scenarioPage_modifyCollection (c : Collection)
    (f : Cache c.Item → Cache c.Item) :
    (s.modifyCollection c f).scenarioPage = s.scenarioPage := by
  cases c with
  | stubs kind => cases kind <;> rfl
  | _ => rfl

end Parts

/-- Only the list of the page shown is changed. -/
theorem viewOf_modifyView (s : Console) (f : ListView → ListView) (kind : StubKind) :
    (s.modifyView f).viewOf kind
      = if StubKind.ofPage? s.page = some kind then f (s.viewOf kind) else s.viewOf kind := by
  unfold modifyView
  split <;> rename_i heq <;> cases kind <;> simp [heq, viewOf]

/-- A redraw moves nothing but the cursor. -/
theorem viewOf_modifyCursor (s : Console) (f : Nat → Nat) (kind : StubKind) :
    ∃ selected, (s.modifyCursor f).viewOf kind = { s.viewOf kind with selected } := by
  unfold modifyCursor
  split
  · exact ⟨(s.viewOf kind).selected, by cases kind <;> rfl⟩
  · exact ⟨(s.viewOf kind).selected, by cases kind <;> rfl⟩
  · rw [viewOf_modifyView]
    split
    · exact ⟨_, rfl⟩
    · exact ⟨(s.viewOf kind).selected, rfl⟩

/-! ## Calls of an editor -/

end Console

/-- The commands that an editor gives. -/
def Command.ofEditor : Command → Bool
  | .saveEditor | .executeEditor | .validateWsdl => true
  | _ => false

/-- The tasks that an editor starts. -/
def Task.ofEditor : Task → Bool
  | .save _ | .execute _ | .checkWsdl _ => true
  | _ => false

/-- A call of an editor begins or ends. -/
def ConsoleStep.ofEditor : ConsoleStep → Bool
  | .begin _ command => command.ofEditor
  | .finish task _ => task.ofEditor
  | _ => false

namespace Console

/-! ## Events that leave the user where they are -/

structure Undisturbed (s t : Console) : Prop where
  page : t.page = s.page
  viewOf : ∀ kind, t.viewOf kind = s.viewOf kind
  /-- An answer may end what is typed, and never begins it. -/
  mode : t.mode = s.mode ∨ t.mode = .normal
  isOpen : t.editor.isOpen = true → s.editor.isOpen = true

/-- The editor, the lists and the field of the page are not touched at all. -/
structure Elsewhere (s t : Console) : Prop where
  page : t.page = s.page
  viewOf : ∀ kind, t.viewOf kind = s.viewOf kind
  mode : t.mode = s.mode ∨ t.mode = .normal
  editor : t.editor = s.editor
  lineInput : t.lineInput = s.lineInput
  /-- An answer that closes the dialog ends what is typed. -/
  dialog : t.scenarioPage.dialog.isSome = s.scenarioPage.dialog.isSome ∨ t.mode = .normal

/-! ### Away from the editor -/

namespace Elsewhere

variable {s t u : Console}

theorem undisturbed (h : Elsewhere s t) : Undisturbed s t where
  page := h.page
  viewOf := h.viewOf
  mode := h.mode
  isOpen := by
    rw [h.editor]
    exact id

theorem refl (s : Console) : Elsewhere s s :=
  ⟨rfl, fun _ => rfl, .inl rfl, rfl, rfl, .inl rfl⟩

theorem trans (h : Elsewhere s t) (h' : Elsewhere t u) : Elsewhere s u where
  page := h'.page.trans h.page
  viewOf := fun kind => (h'.viewOf kind).trans (h.viewOf kind)
  mode := by
    rcases h'.mode with hmode | hmode
    · rw [hmode]
      exact h.mode
    · exact .inr hmode
  editor := h'.editor.trans h.editor
  lineInput := h'.lineInput.trans h.lineInput
  dialog := by
    rcases h'.dialog with hdialog | hmode
    · rcases h.dialog with hbefore | hmode
      · exact .inl (hdialog.trans hbefore)
      · refine .inr ?_
        rcases h'.mode with hsame | hmode'
        · exact hsame.trans hmode
        · exact hmode'
    · exact .inr hmode

/-- The parts of the console that matter, one by one. -/
theorem of_parts (hpage : t.page = s.page) (hstubs : t.stubList = s.stubList)
    (hgraphQl : t.graphQlList = s.graphQlList) (hsoap : t.soapList = s.soapList)
    (hmode : t.mode = s.mode ∨ t.mode = .normal) (heditor : t.editor = s.editor)
    (hline : t.lineInput = s.lineInput)
    (hdialog : t.scenarioPage.dialog.isSome = s.scenarioPage.dialog.isSome ∨ t.mode = .normal) :
    Elsewhere s t where
  page := hpage
  viewOf := by
    intro kind
    cases kind with
    | rest => exact hstubs
    | graphQl => exact hgraphQl
    | soap => exact hsoap
  mode := hmode
  editor := heditor
  lineInput := hline
  dialog := hdialog

/-- What is not one of these parts may change. -/
theorem of_rest (hpage : t.page = s.page) (hstubs : t.stubList = s.stubList)
    (hgraphQl : t.graphQlList = s.graphQlList) (hsoap : t.soapList = s.soapList)
    (hmode : t.mode = s.mode) (heditor : t.editor = s.editor)
    (hline : t.lineInput = s.lineInput)
    (hdialog : t.scenarioPage.dialog.isSome = s.scenarioPage.dialog.isSome) : Elsewhere s t :=
  of_parts hpage hstubs hgraphQl hsoap (.inl hmode) heditor hline (.inl hdialog)

theorem modifyCollection (s : Console) (c : Collection) (f : Cache c.Item → Cache c.Item) :
    Elsewhere s (s.modifyCollection c f) where
  page := page_modifyCollection s c f
  viewOf := viewOf_modifyCollection s c f
  mode := .inl (mode_modifyCollection s c f)
  editor := editor_modifyCollection s c f
  lineInput := lineInput_modifyCollection s c f
  dialog := .inl (congrArg (·.dialog.isSome) (scenarioPage_modifyCollection s c f))

theorem modifyDialog (s : Console) (f : ScenarioDialog → ScenarioDialog) :
    Elsewhere s (s.modifyDialog f) :=
  of_rest rfl rfl rfl rfl rfl rfl rfl Option.isSome_map

theorem notify (s : Console) (notice : Notice) : Elsewhere s (s.notify notice) :=
  of_rest rfl rfl rfl rfl rfl rfl rfl rfl

theorem finish (s : Console) (t : Task) (ht : t.ofEditor = false) (r : t.Outcome) :
    Elsewhere s (s.finish t r).1 := by
  cases t with
  | fetch c => cases r <;> exact modifyCollection ..
  | delete kind id =>
      cases r with
      | ok _ => exact (modifyCollection s (.stubs kind) _).trans (notify ..)
      | error _ => exact modifyCollection s (.stubs kind) _
  | moveScenario id state =>
      cases r with
      -- the dialog closes, and keys are for the page again
      | ok _ => exact of_parts rfl rfl rfl rfl (.inr rfl) rfl rfl (.inr rfl)
      | error _ => exact modifyDialog s _
  | writeExport dir document =>
      cases r with
      | ok _ => exact of_rest rfl rfl rfl rfl rfl rfl rfl rfl
      | error fault => cases fault <;> exact of_rest rfl rfl rfl rfl rfl rfl rfl rfl
  | declineImport => exact of_rest rfl rfl rfl rfl rfl rfl rfl rfl
  | save plan => cases ht
  | checkWsdl url => cases ht
  | execute request => cases ht
  | _ => cases r <;> exact of_rest rfl rfl rfl rfl rfl rfl rfl rfl

theorem startRefresh (s : Console) (page : Page) : Elsewhere s (s.startRefresh page).1 := by
  unfold Console.startRefresh
  split
  · exact modifyCollection ..
  · split <;> exact of_rest rfl rfl rfl rfl rfl rfl rfl rfl

theorem startEnsure (s : Console) : Elsewhere s s.startEnsure.1 := by
  unfold Console.startEnsure
  split
  · exact startRefresh ..
  · exact refl s

theorem startControl (s : Console) (action : RecordingAction) :
    Elsewhere s (s.startControl action).1 := by
  unfold Console.startControl
  dsimp only
  split
  · exact notify ..
  · split <;> exact of_rest rfl rfl rfl rfl rfl rfl rfl rfl

theorem startImport (s : Console) : Elsewhere s s.startImport.1 := by
  unfold Console.startImport
  dsimp only
  split
  · exact refl s
  · split <;> exact of_rest rfl rfl rfl rfl rfl rfl rfl rfl

theorem startExport (s : Console) (dir : String) : Elsewhere s (s.startExport dir).1 := by
  unfold Console.startExport
  split
  · exact refl s
  · exact of_rest rfl rfl rfl rfl rfl rfl rfl rfl

theorem begin (s : Console) (config : Config) (command : Command)
    (hcommand : command.ofEditor = false) : Elsewhere s (s.begin config command).1 := by
  cases command with
  | refresh => exact startRefresh ..
  | recording action => exact startControl ..
  | importSpec => exact startImport s
  | exportStubs => exact startExport ..
  | resetScenarios => exact of_rest rfl rfl rfl rfl rfl rfl rfl rfl
  | setScenarioState name state => exact modifyDialog s _
  | saveEditor => cases hcommand
  | executeEditor => cases hcommand
  | validateWsdl => cases hcommand
  | _ => exact refl s

theorem forget (s : Console) : Elsewhere s s.forget := by
  -- the collections are forgotten one after another
  have hfold : ∀ (cs : List Collection) (t : Console),
      Elsewhere t (cs.foldl (fun s c => s.modifyCollection c Cache.invalidate) t) := by
    intro cs
    induction cs with
    | nil => exact refl
    | cons c cs ih =>
        intro t
        exact (modifyCollection t c _).trans (ih _)
  have hlast : ∀ t : Console, Elsewhere t { t with dashboard.stats := none } :=
    fun t => of_rest rfl rfl rfl rfl rfl rfl rfl rfl
  exact (hfold Collection.all s).trans (hlast _)

theorem settingsStored (s : Console) (before : Config) (r : Except SettingsFault Config) :
    Elsewhere s (s.settingsStored before r) := by
  cases r with
  | error cause => exact of_rest rfl rfl rfl rfl rfl rfl rfl rfl
  | ok config =>
      have hlast : ∀ t : Console, Elsewhere t
          { t with
            settings.texts := config.texts
            settings.message := some (.success "Settings saved") } :=
        fun t => of_rest rfl rfl rfl rfl rfl rfl rfl rfl
      -- only an address of another server makes the console forget
      have hforget : Elsewhere s (if config.apiBase = before.apiBase then s else s.forget) := by
        split
        · exact refl s
        · exact forget s
      exact hforget.trans (hlast _)

theorem copyFinished (s : Console) (source : CopySource) (r : Except String Unit) :
    Elsewhere s (s.copyFinished source r) := by
  cases r <;> exact of_rest rfl rfl rfl rfl rfl rfl rfl rfl

end Elsewhere

/-- Only keys, the redraw and the calls of an editor come near the editor or the lists. -/
theorem elsewhere_after (s : Console) (step : ConsoleStep) (hkey : ∀ key, step ≠ .press key)
    (hclamp : step ≠ .clamp) (hstep : step.ofEditor = false) : Elsewhere s (s.after step) := by
  cases step with
  | press key => exact absurd rfl (hkey key)
  | clamp => exact absurd rfl hclamp
  | begin config command => exact .begin s config command hstep
  | refresh page => exact .startRefresh s page
  | ensure => exact .startEnsure s
  | finish task outcome => exact .finish s task hstep outcome
  | change c change => exact .modifyCollection s c change
  | storeSettings before result => exact .settingsStored s before result
  | copied source result => exact .copyFinished s source result
  | copyFaded => exact .of_rest rfl rfl rfl rfl rfl rfl rfl rfl

/-! ### In the editor -/

namespace Undisturbed

variable {s t : Console}

theorem refl (s : Console) : Undisturbed s s := (Elsewhere.refl s).undisturbed

/-- All changes are in the pane, and the editor is not opened there. -/
theorem of_pane (editor : EditorPane) (h : editor.isOpen = true → s.editor.isOpen = true) :
    Undisturbed s { s with editor } where
  page := rfl
  viewOf := by
    intro kind
    cases kind <;> rfl
  mode := .inl rfl
  isOpen := h

theorem notify (h : Undisturbed s t) (notice : Notice) : Undisturbed s (t.notify notice) where
  page := h.page
  viewOf := by
    intro kind
    exact (Elsewhere.notify t notice).viewOf kind ▸ h.viewOf kind
  mode := h.mode
  isOpen := h.isOpen

theorem closeEditor (h : Elsewhere s t) : Undisturbed s t.closeEditor where
  page := h.page
  viewOf := by
    intro kind
    refine Eq.trans ?_ (h.viewOf kind)
    cases kind <;> rfl
  mode := .inr rfl
  isOpen := fun hopen => nomatch hopen

theorem modifyEditor (s : Console) (f : Editor → Editor) : Undisturbed s (s.modifyEditor f) := by
  refine of_pane (s.editor.modify f) ?_
  intro h
  simpa [EditorPane.modify, EditorPane.isOpen] using h

theorem finishSave (s : Console) (plan : SavePlan) (r : Except ApiError plan.kind.Item) :
    Undisturbed s (s.finishSave plan r) := by
  cases r with
  | ok item =>
      -- the editor closes, whichever it is
      exact (closeEditor (.modifyCollection s (.stubs plan.kind) fun c =>
        Cache.updated (α := plan.kind.Item) c item)).notify _
  | error cause => exact modifyEditor s _

theorem finishWsdlCheck (s : Console) (url : String) (r : Except ApiError Unit) :
    Undisturbed s (s.finishWsdlCheck url r) := by
  cases r <;> exact (of_pane { s.editor with validating := false } id).notify _

theorem startSave (s : Console) : Undisturbed s s.startSave.1 := by
  unfold Console.startSave
  split
  · exact refl s
  · split
    · exact refl s
    · split <;> exact modifyEditor ..

theorem startWsdlCheck (s : Console) : Undisturbed s s.startWsdlCheck.1 := by
  unfold Console.startWsdlCheck
  split
  · exact refl s
  · split
    · exact (refl s).notify _
    · exact of_pane { s.editor with validating := true } id

theorem startTrial (s : Console) (base : String) : Undisturbed s (s.startTrial base).1 := by
  unfold Console.startTrial
  split
  · exact refl s
  · split
    next request _ => cases request <;> exact of_pane _ id
    · exact refl s

end Undisturbed

/-- Only keys and the redraw do more than bring news. -/
theorem undisturbed_after (s : Console) (step : ConsoleStep) (hkey : ∀ key, step ≠ .press key)
    (hclamp : step ≠ .clamp) : Undisturbed s (s.after step) := by
  cases hstep : step.ofEditor with
  | false => exact (elsewhere_after s step hkey hclamp hstep).undisturbed
  | true =>
      cases step with
      | begin config command =>
          cases command with
          | saveEditor => exact .startSave s
          | executeEditor => exact .startTrial ..
          | validateWsdl => exact .startWsdlCheck s
          | _ => cases hstep
      | finish task outcome =>
          cases task with
          | save plan => exact .finishSave s plan outcome
          | checkWsdl url => exact .finishWsdlCheck s url outcome
          | execute request => exact .of_pane _ id
          | _ => cases hstep
      | _ => cases hstep

/-! ## Calls that begin -/

/-- What was fetched and what is open are as they were; marks and messages need not be. -/
structure Begun (s t : Console) : Prop where
  collection : ∀ c, t.collection c = s.collection c
  dialog : t.scenarioPage.dialog = s.scenarioPage.dialog
  mode : t.mode = s.mode
  isOpen : t.editor.isOpen = s.editor.isOpen

namespace Begun

variable (s : Console)

theorem refl : Begun s s := ⟨fun _ => rfl, rfl, rfl, rfl⟩

theorem modifyEditor (f : Editor → Editor) : Begun s (s.modifyEditor f) :=
  ⟨fun _ => rfl, rfl, rfl, Option.isSome_map⟩

theorem startSave : Begun s s.startSave.1 := by
  unfold Console.startSave
  split
  · exact refl s
  · split
    · exact refl s
    · split <;> exact modifyEditor s _

theorem startTrial (base : String) : Begun s (s.startTrial base).1 := by
  unfold Console.startTrial
  split
  · exact refl s
  · split
    next request _ => cases request <;> exact ⟨fun _ => rfl, rfl, rfl, rfl⟩
    next => exact refl s

theorem startWsdlCheck : Begun s s.startWsdlCheck.1 := by
  unfold Console.startWsdlCheck
  split
  · exact refl s
  · split <;> exact ⟨fun _ => rfl, rfl, rfl, rfl⟩

theorem startControl (action : RecordingAction) : Begun s (s.startControl action).1 := by
  unfold Console.startControl
  dsimp only
  split
  · exact ⟨fun _ => rfl, rfl, rfl, rfl⟩
  · split <;> exact ⟨fun _ => rfl, rfl, rfl, rfl⟩

theorem startImport : Begun s s.startImport.1 := by
  unfold Console.startImport
  dsimp only
  split
  · exact refl s
  · split <;> exact ⟨fun _ => rfl, rfl, rfl, rfl⟩

theorem startExport (dir : String) : Begun s (s.startExport dir).1 := by
  unfold Console.startExport
  split
  · exact refl s
  · exact ⟨fun _ => rfl, rfl, rfl, rfl⟩

end Begun

/-- Only a fetch is about what was fetched, and only a move of a scenario about the dialog. -/
theorem begin_cases (s : Console) (config : Config) (command : Command) :
    command = .refresh ∨ (∃ id state, command = .setScenarioState id state)
      ∨ Begun s (s.begin config command).1 := by
  cases command with
  | refresh => exact .inl rfl
  | setScenarioState id state => exact .inr (.inl ⟨id, state, rfl⟩)
  | saveEditor => exact .inr (.inr (.startSave s))
  | executeEditor => exact .inr (.inr (.startTrial s config.mockBase))
  | validateWsdl => exact .inr (.inr (.startWsdlCheck s))
  | recording action => exact .inr (.inr (.startControl s action))
  | importSpec => exact .inr (.inr (.startImport s))
  | exportStubs => exact .inr (.inr (.startExport s config.exportDir))
  | _ => exact .inr (.inr ⟨fun _ => rfl, rfl, rfl, rfl⟩)

end Console

end StubConsole
