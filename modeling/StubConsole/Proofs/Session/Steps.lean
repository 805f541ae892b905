import StubConsole.Session

/-!
# Steps — a session under any sequence of edits

What happens to an open editor is a sequence of steps, and what a session holds after any of them
follows from what each step keeps.

* `SessionStep`, `Session.after`, `Session.run` — the steps, one and many;
* `EditClosed` — a property of records that no edit and no reading can break;
* `Session.Steady` — the invariant of a session;
* `Session.steady_after`, `Session.steady_run` — one step and a whole run keep it.
-/

namespace StubConsole

/-! ## Steps -/

inductive SessionStep where
  | setTab (tab : FormTab)
  | selectNext
  | selectPrev
  | activate
  /-- Any change of the text in the open field. -/
  | typeField (change : TextBuffer → TextBuffer)
  | commit
  | cancel
  | toggleMode
  /-- Any change of the document, which the draft then takes over. -/
  | typeJson (change : TextBuffer → TextBuffer)
  /-- What the start and the end of a save leave behind. -/
  | mark (errors : List String) (saving : Bool)

namespace Session

variable {α Field : Type} [Form α Field]

def after (s : Session α) : SessionStep → Session α
  | .setTab tab => s.setTab tab
  | .selectNext => s.selectNext
  | .selectPrev => s.selectPrev
  | .activate => s.activate.1
  | .typeField change => { s with input := s.input.map change }
  | .commit =>
      match s.commitInput with
      | .ok committed => committed
      | .error _ => s
  | .cancel => s.cancelInput
  | .toggleMode => s.toggleMode.1
  | .typeJson change => { s with json := s.json.map change }.syncJson
  | .mark errors saving => { s with errors, saving }

def run (s : Session α) (steps : List SessionStep) : Session α :=
  steps.foldl after s

end Session

/-! ## The invariant -/

/-- Edits of fields keep the property, and every record that can be read has it. -/
structure EditClosed {α Field : Type} [Form α Field] (P : α → Prop) : Prop where
  cycle : ∀ (value : α) (field : Field), P value → P (Form.cycle value field)
  setValue : ∀ {value changed : α} {field : Field} {text : String},
    Form.setValue value field text = .ok changed → P value → P changed
  read : ∀ {text : String} {value : α}, Record.read? text = some value → P value

/-- The identifier that was opened stays, a typed draft has the property, and the document that
is shown is the draft. -/
structure Session.Steady {α : Type} (openedId : Option String) (P : α → Prop)
    (s : Session α) : Prop where
  openedId_eq : s.openedId = openedId
  structured : ∀ value, s.draft = .structured value → P value
  shown : s.json.map TextBuffer.content = s.draft.rawText?

namespace Session

variable {α Field : Type} [Form α Field] {openedId : Option String} {P : α → Prop}

theorem steady_opened {value : α} (h : P value) :
    Steady (if Form.id value = "" then none else some (Form.id value)) P (opened value) where
  openedId_eq := rfl
  structured := by
    intro other heq
    cases heq
    exact h
  shown := rfl

section Step

variable {s : Session α}

/-- Only the draft and the document matter to the invariant. -/
theorem Steady.congr {t : Session α} (h : Steady openedId P s)
    (hid : t.openedId = s.openedId) (hdraft : t.draft = s.draft) (hjson : t.json = s.json) :
    Steady openedId P t where
  openedId_eq := hid.trans h.openedId_eq
  structured := by
    intro value heq
    exact h.structured value (hdraft ▸ heq)
  shown := by
    rw [hjson, hdraft]
    exact h.shown

/-- A typed draft may give way to another one with the property. -/
theorem Steady.withStructured {value changed : α} {input : Option TextBuffer}
    (h : Steady openedId P s) (hdraft : s.draft = .structured value) (hchanged : P changed) :
    Steady openedId P { s with draft := .structured changed, input } where
  openedId_eq := h.openedId_eq
  structured := by
    intro other heq
    cases heq
    exact hchanged
  shown := by
    have hshown := h.shown
    rw [hdraft] at hshown
    exact hshown

theorem steady_selectNext (h : Steady openedId P s) : Steady openedId P s.selectNext := by
  unfold selectNext
  split
  · exact h.congr rfl rfl rfl
  · exact h

theorem steady_activate (hP : EditClosed P) (h : Steady openedId P s) :
    Steady openedId P s.activate.1 := by
  unfold activate
  split
  next field value hfield hdraft =>
    -- only a field with choices changes the draft, the others open an input
    split
    · exact h.withStructured hdraft (hP.cycle value field (h.structured value hdraft))
    · exact h.withStructured hdraft (hP.cycle value field (h.structured value hdraft))
    · exact h.congr rfl rfl rfl
    · exact h.congr rfl rfl rfl
  next => exact h

theorem steady_commitInput (hP : EditClosed P) (h : Steady openedId P s) {t : Session α}
    (hcommit : s.commitInput = .ok t) : Steady openedId P t := by
  unfold commitInput at hcommit
  split at hcommit
  next field input value hfield hinput hdraft =>
    cases hset : Form.setValue value field input.content with
    | error fault =>
        rw [hset] at hcommit
        cases hcommit
    | ok changed =>
        rw [hset] at hcommit
        cases hcommit
        exact h.withStructured hdraft (hP.setValue hset (h.structured value hdraft))
  next =>
    cases hcommit
    exact h.congr rfl rfl rfl

theorem steady_toggleMode (hP : EditClosed P) (h : Steady openedId P s) :
    Steady openedId P s.toggleMode.1 := by
  unfold toggleMode
  cases hdraft : s.draft with
  | structured value =>
      -- into the text: the document is opened on what the draft is printed as
      exact { openedId_eq := h.openedId_eq, structured := fun _ heq => (nomatch heq), shown := rfl }
  | raw text =>
      cases hread : (Record.read? text : Option α) with
      | none =>
          have htoggle : (Draft.raw text : Draft α).toggle? = none := by
            simp [Draft.toggle?, Draft.isRaw, Draft.enterFormMode?, hread]
          rw [htoggle]
          exact h.congr rfl hdraft.symm rfl
      | some value =>
          have htoggle : (Draft.raw text : Draft α).toggle? = some (.structured value) := by
            simp [Draft.toggle?, Draft.isRaw, Draft.enterFormMode?, hread]
          rw [htoggle]
          refine ⟨h.openedId_eq, ?_, rfl⟩
          intro other heq
          cases heq
          exact hP.read hread

theorem steady_typeJson (change : TextBuffer → TextBuffer) (h : Steady openedId P s) :
    Steady openedId P { s with json := s.json.map change }.syncJson := by
  have hshown := h.shown
  unfold syncJson
  cases hjson : s.json with
  | none => exact h.congr rfl rfl hjson.symm
  | some buffer =>
      cases hdraft : s.draft with
      | structured value =>
          rw [hjson, hdraft] at hshown
          cases hshown
      | raw text =>
          exact { openedId_eq := h.openedId_eq, structured := fun _ heq => (nomatch heq),
                  shown := rfl }

theorem steady_after (hP : EditClosed P) (h : Steady openedId P s) (step : SessionStep) :
    Steady openedId P (s.after step) := by
  cases step with
  | setTab tab => exact h.congr rfl rfl rfl
  | selectNext => exact steady_selectNext h
  | selectPrev => exact h.congr rfl rfl rfl
  | activate => exact steady_activate hP h
  | typeField change => exact h.congr rfl rfl rfl
  | commit =>
      cases hcommit : s.commitInput with
      | error fault =>
          simp only [after, hcommit]
          exact h
      | ok committed =>
          simp only [after, hcommit]
          exact steady_commitInput hP h hcommit
  | cancel => exact h.congr rfl rfl rfl
  | toggleMode => exact steady_toggleMode hP h
  | typeJson change => exact steady_typeJson change h
  | mark errors saving => exact h.congr rfl rfl rfl

end Step

theorem steady_run (hP : EditClosed P) {s : Session α} (h : Steady openedId P s)
    (steps : List SessionStep) : Steady openedId P (s.run steps) := by
  induction steps generalizing s with
  | nil => exact h
  | cons step rest ih => exact ih (steady_after hP h step)

end Session

end StubConsole
