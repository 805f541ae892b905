import StubConsole.Proofs.Console.Acknowledged
import StubConsole.Proofs.Console.Modes
import StubConsole.Proofs.Console.OneCall
import StubConsole.Proofs.Session.SaveTarget

/-!
# SaveUnderWay — nothing is edited while a save is under way

A save that succeeds closes the editor and the draft with it, so whatever was typed since would be
lost.  From the key that asks for the save to the answer, the keys move about in the form and
nothing more, unless the user leaves the editor or switches between form and text.

* `Session.Carries` — a session that has the draft of another one, and opened no input;
* `Console.FormAnswer` — what the other keys of an editor can lead to;
* `Console.Saving` — the draft that is being saved is open, and no mode but the normal one is on;
* `Console.saving_run` — so it stays until the answer comes;
* `Console.save_under_way` — and with what the answer does.
-/

namespace StubConsole

/-! ## Sessions with the same draft -/

namespace Session

variable {α Field : Type} [Form α Field] {s t u : Session α}

/-- Draft and document are the same, and no input was opened. -/
structure Carries (s t : Session α) : Prop where
  draft : t.draft = s.draft
  openedId : t.openedId = s.openedId
  json : t.json = s.json
  input : t.input = none ∨ t.input = s.input

namespace Carries

theorem refl (s : Session α) : Carries s s := ⟨rfl, rfl, rfl, .inr rfl⟩

theorem trans (h : Carries s t) (h' : Carries t u) : Carries s u where
  draft := h'.draft.trans h.draft
  openedId := h'.openedId.trans h.openedId
  json := h'.json.trans h.json
  input := by
    rcases h'.input with hnone | hsame
    · exact .inl hnone
    · rw [hsame]
      exact h.input

theorem setTab (s : Session α) (tab : FormTab) : Carries s (s.setTab tab) :=
  ⟨rfl, rfl, rfl, .inl rfl⟩

theorem selectNext (s : Session α) : Carries s s.selectNext := by
  unfold Session.selectNext
  split
  · exact ⟨rfl, rfl, rfl, .inr rfl⟩
  · exact refl s

theorem selectPrev (s : Session α) : Carries s s.selectPrev := ⟨rfl, rfl, rfl, .inr rfl⟩

end Carries

end Session

namespace Editor

variable {kind : StubKind}

/-- What a save sends depends on the draft and on the record that was opened. -/
theorem savePlan_congr {s t : Session kind.Item} (h : s.Carries t) :
    savePlan ⟨kind, t⟩ = savePlan ⟨kind, s⟩ := by
  have hvalue : t.currentValue = s.currentValue := by
    unfold Session.currentValue
    rw [h.draft]
  have hprepare : t.prepareSave = s.prepareSave := by
    unfold Session.prepareSave
    rw [hvalue, h.openedId]
  cases kind <;> simp only [savePlan, h.draft, h.openedId, hprepare]

theorem kind_of_savePlan {s : Session kind.Item} {plan : SavePlan}
    (h : savePlan ⟨kind, s⟩ = .ok plan) : plan.kind = kind := by
  have htyped : (kind = .rest → s.draft.isRaw = false) → plan.kind = kind := by
    intro hdraft
    rcases exists_of_savePlan_typed hdraft h with ⟨item, -, rfl⟩
    rfl
  cases kind with
  | rest =>
      cases hdraft : s.draft with
      | structured value => exact htyped fun _ => by rw [hdraft]; rfl
      | raw text =>
          rcases exists_of_savePlan_raw hdraft h with ⟨document, -, rfl⟩
          rfl
  | graphQl => exact htyped nofun
  | soap => exact htyped nofun

end Editor

/-- The task saves a draft. -/
def Task.isSave : Task → Bool
  | .save _ => true
  | _ => false

/-- The actions that move about in an open editor. -/
def Action.movesInForm : Action → Bool
  | .nextTab | .prevTab | .nextField | .prevField | .scrollUp | .scrollDown => true
  | _ => false

/-- What can happen until the answer to a save comes: any key that neither leaves the editor nor
switches between form and text, any call, and the answer to any other one. -/
def ConsoleStep.WhileSaving : ConsoleStep → Prop
  | .press key => key.code ≠ .escape ∧ key.code ≠ .char 'J'
  | .finish t _ => t.isSave = false
  | _ => True

namespace Console

/-! ## Keys of an editor -/

/-- What a key other than Escape and `J` can lead to while an editor is open. -/
inductive FormAnswer (s : Console) : KeyResult → Prop where
  | move (action : Action) (h : action.movesInForm = true) : FormAnswer s (s.act action)
  | edit : FormAnswer s (done s.startEditing)
  | stay (command : Option Command) : FormAnswer s (s, command)

namespace FormAnswer

variable {s : Console}

theorem ite {p : Prop} [Decidable p] {a b : KeyResult} (ha : FormAnswer s a)
    (hb : FormAnswer s b) : FormAnswer s (if p then a else b) := by
  split
  · exact ha
  · exact hb

theorem copyResponse (s : Console) : FormAnswer s s.copyResponse := by
  unfold Console.copyResponse
  split <;> exact .stay _

end FormAnswer

theorem formAnswer_handleEditorKey (s : Console) {key : Key} (hescape : key.code ≠ .escape)
    (htoggle : key.code ≠ .char 'J') : FormAnswer s (s.handleEditorKey key) := by
  rcases key with ⟨code, ctrl⟩
  cases code with
  | escape => exact absurd rfl hescape
  | tab => exact .move .nextTab rfl
  | right => exact .move .nextTab rfl
  | backTab => exact .move .prevTab rfl
  | left => exact .move .prevTab rfl
  | down => exact .move .nextField rfl
  | up => exact .move .prevField rfl
  | enter => exact .edit
  | char c =>
      have hother : c ≠ 'J' := fun heq => htoggle (congrArg KeyCode.char heq)
      -- the letters, in the order in which they are tried
      refine .ite (.stay _) (.ite (.move .scrollUp rfl) (.ite (.move .scrollDown rfl) ?_))
      refine .ite (.move .nextTab rfl) (.ite (.move .prevTab rfl) (.ite (.move .nextField rfl) ?_))
      refine .ite (.move .prevField rfl) ?_
      rw [if_neg hother]
      exact .ite (.stay _) (.ite (.copyResponse s) (.ite (.stay _) (.stay _)))
  | _ => exact .stay _

/-- The keys that ask for a save end what is typed. -/
theorem mode_of_saveEditor {s : Console} {key : Key}
    (h : (s.handleKey key).2 = some .saveEditor) : (s.handleKey key).1.mode = .normal := by
  cases hmode : s.mode with
  | searching =>
      simp only [handleKey, hmode] at h
      cases h
  | editingField =>
      simp only [handleKey, hmode] at h
      split at h <;> cases h
  | editingJson =>
      simp only [handleKey, hmode] at h ⊢
      revert h
      unfold handleJsonKey
      split
      · exact nofun
      · split
        · exact nofun
        · split
          · exact fun _ => rfl
          · split <;> exact nofun
  | dialog =>
      simp only [handleKey, hmode, handleDialogKey, submitDialog] at h
      repeat' split at h
      all_goals cases h
  | normal =>
      simp only [handleKey, hmode] at h ⊢
      split at h
      next hopen =>
        rw [if_pos hopen]
        have hanswer := paneAnswer_handleEditorKey s key
        generalize s.handleEditorKey key = result at h hanswer ⊢
        cases hanswer with
        | save => exact hmode
        | _ => cases h
      next hclosed =>
        rw [if_neg hclosed]
        have hanswer := pageAnswer_handleNormalKey s key
        generalize s.handleNormalKey key = result at h hanswer ⊢
        cases hanswer with
        | ask command _ => exact hmode
        | press kind _ _ =>
            unfold pressDelete at h
            split at h
            · cases h
            · dsimp only at h
              split at h <;> cases h
        | _ => cases h

/-! ## Saves that are started -/

/-- A save is started by the command for it and by nothing else. -/
theorem begin_of_save {s : Console} {step : ConsoleStep} {plan : SavePlan}
    (h : s.started step = some (.save plan)) : ∃ config, step = .begin config .saveEditor := by
  have hrefresh : ∀ page, (s.startRefresh page).2 ≠ some (.save plan) := by
    intro page
    unfold startRefresh
    split
    · exact nofun
    · split <;> exact nofun
  cases hwires : step.ofWires with
  | true => cases ofWires_of_started hwires h
  | false =>
      cases step with
      | begin config command =>
          cases command with
          | saveEditor => exact ⟨config, rfl⟩
          | refresh => exact absurd h (hrefresh s.page)
          | executeEditor =>
              simp only [started, begin, startTrial, startExecution] at h
              repeat' split at h
              all_goals cases h
          | validateWsdl =>
              simp only [started, begin, startWsdlCheck] at h
              repeat' split at h
              all_goals cases h
          | recording action => cases hwires
          | importSpec => cases hwires
          | exportStubs => cases hwires
          | _ => cases h
      | refresh page => exact absurd h (hrefresh page)
      | ensure =>
          simp only [started, startEnsure] at h
          split at h
          · exact absurd h (hrefresh s.page)
          · cases h
      | finish task r =>
          -- only answers about the recorder and about transfers start tasks that follow
          cases task <;> first
            | cases h
            | cases hwires
      | _ => cases h

/-! ## The draft that is being saved -/

/-- The draft of an editor is open, a save of it is under way, and keys move about in the form. -/
structure Saving (e : Editor) (s : Console) (session : Session e.kind.Item) : Prop where
  mode : s.mode = .normal
  active : s.editor.active = some { e with session }
  carries : e.session.Carries session
  saving : session.saving = true

/-- What a save that is accepted finds and leaves. -/
theorem saving_startSave {s : Console} {t : Task} (hmode : s.mode = .normal)
    (h : s.startSave.2 = some t) :
    ∃ e plan session, s.editor.active = some e ∧ e.savePlan = .ok plan ∧ t = .save plan
      ∧ Saving e s.startSave.1 session := by
  revert h
  unfold startSave
  split
  next => exact nofun
  next e hactive =>
    split
    · exact nofun
    · split
      next plan hplan =>
        intro h
        cases h
        refine ⟨e, plan, _, hactive, hplan, rfl, hmode, active_modifyEditor hactive _, ?_, rfl⟩
        exact ⟨rfl, rfl, rfl, .inr rfl⟩
      next => exact nofun

namespace Saving

variable {s t : Console} {e : Editor} {session : Session e.kind.Item}

/-- A change away from the editor. -/
theorem elsewhere (h : Saving e s session) (hmode : t.mode = s.mode ∨ t.mode = .normal)
    (hactive : t.editor.active = s.editor.active) : Saving e t session where
  mode := hmode.elim (fun hsame => hsame.trans h.mode) id
  active := hactive.trans h.active
  carries := h.carries
  saving := h.saving

/-- A move in the form. -/
theorem moved (h : Saving e s session) {f : Editor → Editor} {after : Session e.kind.Item}
    (hf : f { e with session } = { e with session := after }) (hcarries : session.Carries after)
    (hsaving : after.saving = session.saving) : Saving e (s.modifyEditor f) after where
  mode := h.mode
  active := (active_modifyEditor h.active f).trans (congrArg some hf)
  carries := h.carries.trans hcarries
  saving := hsaving.trans h.saving

theorem act (h : Saving e s session) {action : Action} (haction : action.movesInForm = true) :
    ∃ after, Saving e (s.apply action) after := by
  cases action with
  | nextTab => exact ⟨_, h.moved rfl (.setTab session _) rfl⟩
  | prevTab => exact ⟨_, h.moved rfl (.setTab session _) rfl⟩
  | nextField =>
      exact ⟨_, h.moved rfl (.selectNext session) (Session.sameMarks_selectNext session).saving⟩
  | prevField => exact ⟨_, h.moved rfl (.selectPrev session) rfl⟩
  | scrollUp => exact ⟨session, h.elsewhere (.inl rfl) rfl⟩
  | scrollDown => exact ⟨session, h.elsewhere (.inl rfl) rfl⟩
  | _ => cases haction

/-- No field and no document opens. -/
theorem startEditing (h : Saving e s session) : s.startEditing = s := by
  unfold Console.startEditing
  rw [h.active]
  exact if_pos h.saving

theorem press (h : Saving e s session) {key : Key} (hescape : key.code ≠ .escape)
    (htoggle : key.code ≠ .char 'J') : ∃ after, Saving e (s.handleKey key).1 after := by
  have hopen : s.editor.isOpen = true := by rw [EditorPane.isOpen, h.active]; rfl
  have hkey : s.handleKey key = s.handleEditorKey key := by
    simp only [handleKey, h.mode, hopen, if_true]
  have hanswer := formAnswer_handleEditorKey s hescape htoggle
  rw [hkey]
  generalize s.handleEditorKey key = result at hanswer ⊢
  cases hanswer with
  | move action haction => exact h.act haction
  | edit => exact ⟨session, by rw [done, h.startEditing]; exact h⟩
  | stay command => exact ⟨session, h⟩

/-- The draft is not saved twice. -/
theorem startSave (h : Saving e s session) : s.startSave = (s, none) := by
  unfold Console.startSave
  rw [h.active]
  exact if_pos h.saving

theorem startTrial (h : Saving e s session) (base : String) :
    Saving e (s.startTrial base).1 session := by
  unfold Console.startTrial
  split
  · exact h
  · split
    next request _ => cases request <;> exact h.elsewhere (.inl rfl) rfl
    · exact h

theorem startWsdlCheck (h : Saving e s session) : Saving e s.startWsdlCheck.1 session := by
  unfold Console.startWsdlCheck
  split
  · exact h
  · split <;> exact h.elsewhere (.inl rfl) rfl

/-- Calls of the editor other than the save. -/
theorem call (h : Saving e s session) {step : ConsoleStep} (hstep : step.WhileSaving)
    (heditor : step.ofEditor = true) : Saving e (s.after step) session := by
  cases step with
  | begin config command =>
      cases command with
      | saveEditor =>
          simp only [after, begin, h.startSave]
          exact h
      | executeEditor => exact h.startTrial config.mockBase
      | validateWsdl => exact h.startWsdlCheck
      | _ => cases heditor
  | finish task r =>
      cases task with
      | save plan => cases hstep
      | checkWsdl url => cases r <;> exact h.elsewhere (.inl rfl) rfl
      | execute request => exact h.elsewhere (.inl rfl) rfl
      | _ => cases heditor
  | _ => cases heditor

theorem step (h : Saving e s session) {step : ConsoleStep} (hstep : step.WhileSaving) :
    ∃ after, Saving e (s.after step) after := by
  cases heditor : step.ofEditor with
  | true => exact ⟨session, h.call hstep heditor⟩
  | false =>
      by_cases hkey : ∃ key, step = .press key
      · rcases hkey with ⟨key, rfl⟩
        exact h.press hstep.1 hstep.2
      · refine ⟨session, ?_⟩
        by_cases hclamp : step = .clamp
        · rw [hclamp]
          have hfocus := SameFocus.modifyCursor s (ListView.clampTo s.visibleCount)
          exact h.elsewhere (.inl hfocus.mode) (congrArg EditorPane.active hfocus.editor)
        · have hrest := elsewhere_after s step (fun key heq => hkey ⟨key, heq⟩) hclamp heditor
          exact h.elsewhere hrest.mode (congrArg EditorPane.active hrest.editor)

end Saving

theorem saving_run {s : Console} {e : Editor} {session : Session e.kind.Item}
    (h : Saving e s session) {steps : List ConsoleStep}
    (hsteps : ∀ step ∈ steps, step.WhileSaving) : ∃ after, Saving e (s.run steps) after := by
  induction steps generalizing s session with
  | nil => exact ⟨session, h⟩
  | cons step rest ih =>
      rcases List.forall_mem_cons.1 hsteps with ⟨hstep, hrest⟩
      rcases h.step hstep with ⟨after, hafter⟩
      exact ih hafter hrest

/-! ## The answer -/

section Answer

variable {s : Console} {e : Editor} {session : Session e.kind.Item} {plan : SavePlan}

/-- A save that fails leaves the draft, so that the same can be saved again. -/
theorem Saving.failed (h : Saving e s session) (hplan : e.savePlan = .ok plan) (cause : ApiError) :
    ∃ kept, (s.finishSave plan (.error cause)).editor.active = some { e with session := kept }
      ∧ e.session.Carries kept ∧ kept.saving = false
      ∧ kept.errors = [cause.failureMessage ("save " ++ plan.kind.noun)]
      ∧ Editor.savePlan { e with session := kept } = .ok plan := by
  have hmarked : session.Carries
      { session with
        saving := false, errors := [cause.failureMessage ("save " ++ plan.kind.noun)] } :=
    ⟨rfl, rfl, rfl, .inr rfl⟩
  have hcarries := h.carries.trans hmarked
  refine ⟨_, active_modifyEditor h.active _, hcarries, rfl, rfl, ?_⟩
  exact (Editor.savePlan_congr hcarries).trans hplan

/-- A save that succeeds closes the editor, and the record is where it will be fetched again. -/
theorem saved_finishSave (s : Console) (plan : SavePlan) (item : plan.kind.Item) :
    (s.finishSave plan (.ok item)).editor.isOpen = false
      ∧ (s.finishSave plan (.ok item)).mode = .normal
      ∧ item ∈ ((s.finishSave plan (.ok item)).cacheOf plan.kind).items
      ∧ ((s.finishSave plan (.ok item)).cacheOf plan.kind).needsFetch = true := by
  have hcache : (s.finishSave plan (.ok item)).cacheOf plan.kind
      = Cache.updated (α := plan.kind.Item) (s.cacheOf plan.kind) item :=
    collection_modifyCollection_self s (c := .stubs plan.kind) _
  refine ⟨rfl, rfl, ?_, ?_⟩
  · rw [hcache]
    exact (Cache.placed_replaceFirst item _).mem
  · rw [hcache]
    rfl

end Answer

/-- A key asks for a save, and the save is accepted.  Until the answer comes, the draft and what
is shown of it stay as they are, whatever else happens, and no other save is started. -/
theorem save_under_way {s : Console} {key : Key} {config : Config} {t : Task}
    (hkey : (s.handleKey key).2 = some .saveEditor)
    (hstart : ((s.handleKey key).1.begin config .saveEditor).2 = some t)
    {between : List ConsoleStep} (hbetween : ∀ step ∈ between, step.WhileSaving) :
    let asked := (s.handleKey key).1
    let u := (asked.begin config .saveEditor).1.run between
    ∃ e plan session, asked.editor.active = some e ∧ e.savePlan = .ok plan ∧ plan.kind = e.kind
      ∧ t = .save plan ∧ Saving e u session
      ∧ (∀ step other, u.started step ≠ some (.save other))
      ∧ (∀ cause, ∃ kept,
          (u.finish (.save plan) (.error cause)).1.editor.active = some { e with session := kept }
            ∧ e.session.Carries kept ∧ kept.saving = false
            ∧ kept.errors = [cause.failureMessage ("save " ++ plan.kind.noun)]
            ∧ Editor.savePlan { e with session := kept } = .ok plan)
      ∧ ∀ item,
          let saved := (u.finish (.save plan) (.ok item)).1
          saved.editor.isOpen = false ∧ saved.mode = .normal
            ∧ item ∈ (saved.cacheOf plan.kind).items
            ∧ (saved.cacheOf plan.kind).needsFetch = true := by
  intro asked u
  rcases saving_startSave (mode_of_saveEditor hkey) hstart with
    ⟨e, plan, first, hactive, hplan, htask, hfirst⟩
  have hrun : ∃ session, Saving e u session := saving_run hfirst hbetween
  rcases hrun with ⟨session, hsaving⟩
  refine ⟨e, plan, session, hactive, hplan, Editor.kind_of_savePlan hplan, htask, hsaving, ?_,
    hsaving.failed hplan, saved_finishSave u plan⟩
  intro step other hstarted
  rcases begin_of_save hstarted with ⟨config, rfl⟩
  have hnone : u.startSave.2 = some (.save other) := hstarted
  rw [hsaving.startSave] at hnone
  cases hnone

/-- While a new stub is saved, the user tries to edit it, moves to the next tab and saves again. -/
def triedMeanwhile : List ConsoleStep :=
  [.press (.plain .enter), .press (.ofChar 'l'), .press ⟨.char 's', true⟩,
   .begin .default .saveEditor]

theorem save_under_way_newStub :
    let asked := (newStub.handleKey ⟨.char 's', true⟩).1
    let u := (asked.begin .default .saveEditor).1.run triedMeanwhile
    (newStub.handleKey ⟨.char 's', true⟩).2 = some .saveEditor
      ∧ (asked.begin .default .saveEditor).2 = some (.save (.ofItem .rest .fresh))
      ∧ u.mode = .normal
      ∧ (u.begin .default .saveEditor).2 = none
      ∧ (u.finish (.save (.ofItem .rest .fresh)) (.ok Stub.fresh)).1.editor.isOpen = false := by
  intro asked u
  have hkey : (newStub.handleKey ⟨.char 's', true⟩).2 = some .saveEditor := by decide +kernel
  have hstart : (asked.begin .default .saveEditor).2 = some (.save (.ofItem .rest .fresh)) := by
    decide +kernel
  have hbetween : ∀ step ∈ triedMeanwhile, step.WhileSaving := by
    simp [triedMeanwhile, ConsoleStep.WhileSaving, Key.plain, Key.ofChar]
  rcases save_under_way hkey hstart hbetween with
    ⟨e, plan, session, -, -, -, hplan, hsaving, -, -, hsaved⟩
  obtain rfl : SavePlan.ofItem .rest .fresh = plan := Task.save.inj hplan
  refine ⟨hkey, hstart, hsaving.mode, ?_, (hsaved Stub.fresh).1⟩
  exact congrArg Prod.snd hsaving.startSave

end Console

end StubConsole
