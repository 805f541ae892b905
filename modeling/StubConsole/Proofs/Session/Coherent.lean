import StubConsole.Proofs.Json.Delivered
import StubConsole.Proofs.Session.Steps
import StubConsole.StubKind

/-!
# Coherent — the parts of a session fit together

The document of a session is open while its draft is a text, and holds that text; an input is open
over a form only; and the selected field is one of the fields of its tab.

* `Session.Pointed`, `Session.Coherent` — the invariant;
* `Session.coherent_opened`, `Session.coherent_after` — where it starts, and what keeps it.
-/

namespace StubConsole

theorem StubKind.fields_pos (kind : StubKind) (tab : FormTab) :
    0 < (Form.fields kind.Item tab).length := by
  cases kind <;> cases tab <;> decide

namespace Session

section Invariant

variable {α Field : Type} [Form α Field]

/-- What the user points at is there: an input in a form, a field in its tab. -/
structure Pointed (s : Session α) : Prop where
  input : s.input.isSome = true → s.draft.isRaw = false
  field : s.field < (Form.fields α s.tab).length

structure Coherent (s : Session α) : Prop extends Pointed s where
  shown : s.json.map TextBuffer.content = s.draft.rawText?

end Invariant

variable {kind : StubKind} {s t : Session kind.Item}

theorem coherent_opened (value : kind.Item) : (opened value).Coherent where
  shown := rfl
  input := fun h => nomatch h
  field := kind.fields_pos .request

/-! ## What is pointed at -/

namespace Pointed

theorem setTab (s : Session kind.Item) (tab : FormTab) : (s.setTab tab).Pointed where
  input := fun h => nomatch h
  field := kind.fields_pos tab

theorem selectNext (h : s.Pointed) : s.selectNext.Pointed := by
  unfold Session.selectNext
  split
  next hnext => exact ⟨h.input, hnext⟩
  next => exact h

theorem selectPrev (h : s.Pointed) : s.selectPrev.Pointed where
  input := h.input
  field := Nat.lt_of_le_of_lt (Nat.sub_le s.field 1) h.field

/-- An input is opened over a form, and a field with choices leaves one as it was. -/
theorem activate (h : s.Pointed) : s.activate.1.Pointed := by
  unfold Session.activate
  split
  next field value _ hdraft =>
    have htyped : s.draft.isRaw = false := by rw [hdraft]; rfl
    split
    · exact ⟨fun _ => rfl, h.field⟩
    · exact ⟨fun _ => rfl, h.field⟩
    · exact ⟨fun _ => htyped, h.field⟩
    · exact ⟨fun _ => htyped, h.field⟩
  next => exact h

theorem commitInput (h : s.Pointed) (hcommit : s.commitInput = .ok t) : t.Pointed := by
  unfold Session.commitInput at hcommit
  split at hcommit
  next field input value _ _ _ =>
    rcases Json.exists_of_bind_eq_ok hcommit with ⟨changed, -, hstored⟩
    cases hstored
    exact ⟨fun hinput => (nomatch hinput), h.field⟩
  next =>
    cases hcommit
    exact ⟨fun hinput => (nomatch hinput), h.field⟩

theorem toggleMode (h : s.Pointed) : s.toggleMode.1.Pointed := by
  unfold Session.toggleMode
  split <;> exact ⟨fun hinput => (nomatch hinput), h.field⟩

theorem syncJson (h : s.Pointed) : s.syncJson.Pointed := by
  unfold Session.syncJson
  split
  next hdraft =>
    refine ⟨fun hinput => ?_, h.field⟩
    have htyped := h.input hinput
    rw [hdraft] at htyped
    cases htyped
  next => exact h

theorem after (h : s.Pointed) (step : SessionStep) : (s.after step).Pointed := by
  cases step with
  | setTab tab => exact setTab s tab
  | selectNext => exact h.selectNext
  | selectPrev => exact h.selectPrev
  | activate => exact h.activate
  | typeField change =>
      refine ⟨fun hinput => h.input ?_, h.field⟩
      simpa [Session.after] using hinput
  | commit =>
      cases hcommit : s.commitInput with
      | error fault =>
          simp only [Session.after, hcommit]
          exact h
      | ok committed =>
          simp only [Session.after, hcommit]
          exact h.commitInput hcommit
  | cancel =>
      refine ⟨?_, h.field⟩
      intro hinput
      cases hinput
  | toggleMode => exact h.toggleMode
  | typeJson change => exact syncJson ⟨h.input, h.field⟩
  | mark errors saving => exact ⟨h.input, h.field⟩

end Pointed

theorem coherent_after (h : s.Coherent) (step : SessionStep) : (s.after step).Coherent where
  toPointed := h.toPointed.after step
  shown := by
    have hclosed : EditClosed fun _ : kind.Item => True :=
      ⟨fun _ _ _ => trivial, fun _ _ => trivial, fun _ => trivial⟩
    have hsteady : s.Steady s.openedId fun _ => True := ⟨rfl, fun _ _ => trivial, h.shown⟩
    exact (steady_after hclosed hsteady step).shown

/-! ## What is open -/

theorem input_of_activate (h : s.activate.2 = true) :
    s.activate.1.input.isSome = true ∧ s.activate.1.draft.isRaw = false := by
  unfold activate at h ⊢
  split at h
  next field value hfield hdraft =>
    have htyped : s.draft.isRaw = false := by rw [hdraft]; rfl
    split at h
    · cases h
    · cases h
    · exact ⟨rfl, htyped⟩
    · exact ⟨rfl, htyped⟩
  next => cases h

theorem isRaw_syncJson (s : Session kind.Item) : s.syncJson.draft.isRaw = s.draft.isRaw := by
  unfold syncJson
  split
  next hdraft => rw [hdraft]; rfl
  next => rfl

theorem input_syncJson (s : Session kind.Item) : s.syncJson.input = s.input := by
  unfold syncJson
  split <;> rfl

end Session

end StubConsole
