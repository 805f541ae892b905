import StubConsole.Proofs.Console.Pane

/-!
# LateAnswers — answers that come after their editor was closed

A call does not carry the editor that started it: its answer is for whatever editor is open when
it arrives.  Here is told when that makes no difference to the user.

* `Console.Untouched` — the open editor and the meaning of keys stay as they are;
* `Console.Harmless` — the states in which an answer leaves them so, and no other does;
* `EditorPane.Idle` — the pane of an editor that has made no call of its own;
* `Console.untouched_late_iff` — answers after any run in which their editor was closed.
-/

namespace StubConsole

/-! ## Editors without a call of their own -/

/-- A failure changes an editor unless it shows the same failure already. -/
theorem Editor.withErrors_withSaving_eq_iff (e : Editor) (saving : Bool) (errors : List String) :
    (e.withSaving saving).withErrors errors = e ↔ e.saving = saving ∧ e.errors = errors := by
  rcases e with ⟨kind, session⟩
  cases session
  simp [Editor.withErrors, Editor.withSaving, Editor.saving, Editor.errors, eq_comm, and_comm]

namespace EditorPane

structure Idle (p : EditorPane) : Prop where
  errors : ∀ e, p.active = some e → e.errors = []
  saving : ∀ e, p.active = some e → e.saving = false
  response : p.isOpen = true → p.response = none
  validating : p.isOpen = true → p.validating = false

theorem idle_of_closed {p : EditorPane} (h : p.isOpen = false) : p.Idle where
  errors := by
    intro e hactive
    rw [isOpen_eq_false_iff.1 h] at hactive
    cases hactive
  saving := by
    intro e hactive
    rw [isOpen_eq_false_iff.1 h] at hactive
    cases hactive
  response := by
    intro hopen
    rw [h] at hopen
    cases hopen
  validating := by
    intro hopen
    rw [h] at hopen
    cases hopen

/-- An editor begins without marks. -/
theorem idle_opened (kind : StubKind) (item : kind.Item) :
    (opened (.opened kind item)).Idle where
  errors := by
    intro e hactive
    cases hactive
    rfl
  saving := by
    intro e hactive
    cases hactive
    rfl
  response := fun _ => rfl
  validating := fun _ => rfl

end EditorPane

theorem PaneStep.idle {p q : EditorPane} (h : PaneStep p q) (hp : p.Idle) : q.Idle := by
  cases h with
  | closed => exact EditorPane.idle_of_closed rfl
  | opened kind item => exact EditorPane.idle_opened kind item
  | scrolled scroll => exact ⟨hp.errors, hp.saving, hp.response, hp.validating⟩
  | edited f hf =>
      -- an edit opens nothing and keeps the marks of the editor it is made in
      have hopen := EditorPane.isOpen_modify p f
      refine ⟨?_, ?_, fun h => hp.response (hopen ▸ h), fun h => hp.validating (hopen ▸ h)⟩
      · intro e he
        rcases Option.map_eq_some_iff.1 he with ⟨old, hold, rfl⟩
        exact (hf old hold).errors.trans (hp.errors old hold)
      · intro e he
        rcases Option.map_eq_some_iff.1 he with ⟨old, hold, rfl⟩
        exact (hf old hold).saving.trans (hp.saving old hold)

/-! ## Kinds of answers -/

namespace Task

/-- The task asks about a WSDL document. -/
def IsCheck : Task → Prop
  | .checkWsdl _ => True
  | _ => False

/-- The server has acknowledged a save. -/
def Saved : (t : Task) → t.Outcome → Prop
  | .save _, .ok _ => True
  | _, _ => False

end Task

namespace Console

theorem idle_run {s : Console} (h : s.editor.Idle) (steps : List ConsoleStep)
    (hsteps : ∀ step ∈ steps, step.ofEditor = false) : (s.run steps).editor.Idle := by
  induction steps generalizing s with
  | nil => exact h
  | cons step steps ih =>
      have hstep := paneStep_after s step (hsteps step List.mem_cons_self)
      exact ih (hstep.idle h) fun other hother => hsteps other (List.mem_cons_of_mem step hother)

/-! ## What an answer leaves alone -/

/-- The editor that is open stays open with its draft, its errors and its marks, and what is typed
goes on where it went. -/
structure Untouched (s t : Console) : Prop where
  active : t.editor.active = s.editor.active
  response : s.editor.isOpen = true → t.editor.response = s.editor.response
  validating : s.editor.isOpen = true → t.editor.validating = s.editor.validating
  mode : t.mode = s.mode

/-- What must be so for an answer to make no difference. -/
def Harmless (s : Console) : (t : Task) → t.Outcome → Prop
  | .save _, .ok _ => s.editor.isOpen = false ∧ s.mode = .normal
  | .save plan, .error cause =>
      ∀ e, s.editor.active = some e →
        e.saving = false ∧ e.errors = [cause.failureMessage ("save " ++ plan.kind.noun)]
  | .execute _, execution => s.editor.isOpen = true → s.editor.response = some execution
  | .checkWsdl _, _ => s.editor.isOpen = true → s.editor.validating = false
  | _, _ => True

section Answers

variable {s : Console}

theorem untouched_saved_iff (plan : SavePlan) (item : plan.kind.Item) :
    s.Untouched (s.finishSave plan (.ok item)) ↔ s.editor.isOpen = false ∧ s.mode = .normal := by
  -- the pane is closed and keys are for the page, whatever there was before
  constructor
  · intro h
    have hactive : none = s.editor.active := h.active
    exact ⟨EditorPane.isOpen_eq_false_iff.2 hactive.symm, h.mode.symm⟩
  · rintro ⟨hclosed, hmode⟩
    refine ⟨(EditorPane.isOpen_eq_false_iff.1 hclosed).symm, ?_, ?_, hmode.symm⟩
    · intro hopen
      rw [hclosed] at hopen
      cases hopen
    · intro hopen
      rw [hclosed] at hopen
      cases hopen

theorem untouched_refused_iff (plan : SavePlan) (cause : ApiError) :
    s.Untouched (s.finishSave plan (.error cause)) ↔ ∀ e, s.editor.active = some e →
      e.saving = false ∧ e.errors = [cause.failureMessage ("save " ++ plan.kind.noun)] := by
  constructor
  · intro h e hactive
    -- the errors of the editor that is open are replaced by the one of the answer
    have hsame := h.active
    simp only [finishSave, modifyEditor, EditorPane.modify, hactive, Option.map_some] at hsame
    exact (Editor.withErrors_withSaving_eq_iff ..).1 (Option.some.inj hsame)
  · intro h
    refine ⟨?_, fun _ => rfl, fun _ => rfl, rfl⟩
    cases hactive : s.editor.active with
    | none => simp only [finishSave, modifyEditor, EditorPane.modify, hactive, Option.map_none]
    | some e =>
        have hsame := (Editor.withErrors_withSaving_eq_iff ..).2 (h e hactive)
        simp only [finishSave, modifyEditor, EditorPane.modify, hactive, Option.map_some, hsame]

theorem untouched_executed_iff (execution : Execution) :
    s.Untouched (s.finishExecution execution)
      ↔ (s.editor.isOpen = true → s.editor.response = some execution) := by
  constructor
  · intro h hopen
    exact (h.response hopen).symm
  · intro h
    exact ⟨rfl, fun hopen => (h hopen).symm, fun _ => rfl, rfl⟩

theorem untouched_checked_iff (url : String) (r : Except ApiError Unit) :
    s.Untouched (s.finishWsdlCheck url r)
      ↔ (s.editor.isOpen = true → s.editor.validating = false) := by
  have hpane : (s.finishWsdlCheck url r).editor = { s.editor with validating := false } := by
    cases r <;> rfl
  have hmode : (s.finishWsdlCheck url r).mode = s.mode := by
    cases r <;> rfl
  constructor
  · intro h hopen
    have hvalidating := h.validating hopen
    rw [hpane] at hvalidating
    exact hvalidating.symm
  · intro h
    refine ⟨by rw [hpane], fun _ => by rw [hpane], ?_, hmode⟩
    intro hopen
    rw [hpane, h hopen]

theorem untouched_finish_iff (t : Task) (ht : t.ofEditor = true) (r : t.Outcome) :
    s.Untouched (s.finish t r).1 ↔ s.Harmless t r := by
  cases t with
  | save plan =>
      cases r with
      | ok item => exact untouched_saved_iff plan item
      | error cause => exact untouched_refused_iff plan cause
  | execute request => exact untouched_executed_iff r
  | checkWsdl url => exact untouched_checked_iff url r
  | _ => cases ht

end Answers

/-! ## Answers that come late -/

section Started

variable {s : Console} {t : Task}

theorem ofEditor_startSave (h : s.startSave.2 = some t) : t.ofEditor = true := by
  unfold startSave at h
  split at h
  next => cases h
  next =>
    split at h
    · cases h
    · split at h
      · cases h
        rfl
      · cases h

theorem ofEditor_startTrial {base : String} (h : (s.startTrial base).2 = some t) :
    t.ofEditor = true := by
  unfold startTrial at h
  split at h
  · cases h
  · split at h
    next request _ =>
      cases request with
      | error message => cases h
      | ok outgoing =>
          cases h
          rfl
    next => cases h

theorem ofEditor_startWsdlCheck (h : s.startWsdlCheck.2 = some t) : t.ofEditor = true := by
  unfold startWsdlCheck at h
  split at h
  · cases h
  · split at h
    · cases h
    · cases h
      rfl

/-- The commands of an editor start its tasks and no others. -/
theorem ofEditor_of_begin {config : Config} {command : Command}
    (hcommand : command.ofEditor = true) (h : (s.begin config command).2 = some t) :
    t.ofEditor = true := by
  cases command with
  | saveEditor => exact ofEditor_startSave h
  | executeEditor => exact ofEditor_startTrial h
  | validateWsdl => exact ofEditor_startWsdlCheck h
  | _ => cases hcommand

end Started

/-- An editor that has made no call of its own is disturbed by every answer but the one to a
check. -/
theorem harmless_iff_of_idle {s : Console} (h : s.editor.Idle) (t : Task)
    (ht : t.ofEditor = true) (r : t.Outcome) :
    s.Harmless t r ↔ t.IsCheck ∨ s.editor.isOpen = false ∧ (t.Saved r → s.mode = .normal) := by
  cases t with
  | save plan =>
      cases r with
      | ok item => simp [Harmless, Task.IsCheck, Task.Saved]
      | error cause =>
          constructor
          · intro hharmless
            refine .inr ⟨?_, fun hsaved => hsaved.elim⟩
            cases hactive : s.editor.active with
            | none => exact EditorPane.isOpen_eq_false_iff.2 hactive
            | some e =>
                -- an idle editor shows no errors, so it cannot show this one
                have herrors := (hharmless e hactive).2
                rw [h.errors e hactive] at herrors
                cases herrors
          · rintro (hcheck | ⟨hclosed, -⟩)
            · exact hcheck.elim
            · intro e hactive
              rw [EditorPane.isOpen_eq_false_iff.1 hclosed] at hactive
              cases hactive
  | execute request =>
      constructor
      · intro hharmless
        refine .inr ⟨?_, fun hsaved => hsaved.elim⟩
        refine Bool.eq_false_iff.2 ?_
        intro hopen
        -- an idle editor shows no response
        have hresponse := hharmless hopen
        rw [h.response hopen] at hresponse
        cases hresponse
      · rintro (hcheck | ⟨hclosed, -⟩)
        · exact hcheck.elim
        · intro hopen
          rw [hclosed] at hopen
          cases hopen
  | checkWsdl url => exact ⟨fun _ => .inl trivial, fun _ => h.validating⟩
  | _ => cases ht

/-- An editor makes a call, is closed, and anything happens; then the answer comes.  The answer
leaves the user alone exactly if it is harmless there.  If no other call of an editor began or
ended since, that is if no editor is open again and, for a save, no text is being typed; only the
answer to a check never does harm. -/
theorem untouched_late_iff {s : Console} {config : Config} {command : Command} {t : Task}
    (hcommand : command.ofEditor = true) (hstart : (s.begin config command).2 = some t)
    (before after : List ConsoleStep)
    (hclosed : (s.run (.begin config command :: before)).editor.isOpen = false) (r : t.Outcome) :
    let u := s.run (.begin config command :: before ++ after)
    (u.Untouched (u.finish t r).1 ↔ u.Harmless t r)
      ∧ ((∀ step ∈ after, step.ofEditor = false) →
          (u.Untouched (u.finish t r).1
            ↔ t.IsCheck ∨ u.editor.isOpen = false ∧ (t.Saved r → u.mode = .normal))) := by
  intro u
  have ht : t.ofEditor = true := ofEditor_of_begin hcommand hstart
  refine ⟨untouched_finish_iff t ht r, ?_⟩
  intro hafter
  have hu : u = (s.run (.begin config command :: before)).run after := run_append ..
  -- whatever editor is open now was opened after the first one was closed
  have hidle : u.editor.Idle := by
    rw [hu]
    exact idle_run (EditorPane.idle_of_closed hclosed) after hafter
  exact (untouched_finish_iff t ht r).trans (harmless_iff_of_idle hidle t ht r)

/-- A new stub, just opened. -/
def newStub : Console := ({ initial with page := .stubs } : Console).run [.press (.ofChar 'n')]

/-- The save of a closed editor, answered while the list is shown. -/
theorem untouched_late_atRest :
    let u := newStub.run [.begin .default .saveEditor, .press (.plain .escape)]
    (newStub.begin .default .saveEditor).2 = some (.save (.ofItem .rest .fresh))
      ∧ u.editor.isOpen = false
      ∧ u.Untouched (u.finish (.save (.ofItem .rest .fresh)) (.ok Stub.fresh)).1 := by
  intro u
  have hstart : (newStub.begin .default .saveEditor).2
      = some (.save (.ofItem .rest .fresh)) := by
    decide +kernel
  have hclosed : u.editor.isOpen = false := by decide +kernel
  have hmode : u.mode = .normal := by decide +kernel
  have hlate := untouched_late_iff rfl hstart [.press (.plain .escape)] [] hclosed (.ok Stub.fresh)
  have hquiet := hlate.2 (fun _ hstep => nomatch hstep)
  exact ⟨hstart, hclosed, hquiet.2 (.inr ⟨hclosed, fun _ => hmode⟩)⟩

/-- The save of a closed editor takes the draft of the next one away. -/
theorem late_save_closes_other_editor :
    let u := newStub.run
      [.begin .default .saveEditor, .press (.plain .escape), .press (.ofChar 'n')]
    (newStub.begin .default .saveEditor).2 = some (.save (.ofItem .rest .fresh))
      ∧ (newStub.run [.begin .default .saveEditor, .press (.plain .escape)]).editor.isOpen = false
      ∧ u.editor.isOpen = true
      ∧ (u.finish (.save (.ofItem .rest .fresh)) (.ok Stub.fresh)).1.editor.isOpen = false
      ∧ ¬u.Untouched (u.finish (.save (.ofItem .rest .fresh)) (.ok Stub.fresh)).1 := by
  intro u
  have hopen : u.editor.isOpen = true := by decide +kernel
  refine ⟨by decide +kernel, by decide +kernel, hopen, rfl, ?_⟩
  intro h
  have hactive : none = u.editor.active := h.active
  rw [EditorPane.isOpen, ← hactive] at hopen
  cases hopen

end Console

end StubConsole
