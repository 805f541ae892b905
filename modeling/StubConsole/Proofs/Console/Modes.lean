import StubConsole.Proofs.Console.Steps
import StubConsole.Proofs.Session.Coherent

/-!
# Modes — what keys are taken for is open

In every mode but the normal one keys are text for something that is open: the search box of the
page, the field of the page, the field or the document of the editor, the dialog.

* `Console.Placed` — what is open is where it belongs, whatever the mode;
* `Console.Consistent` — and the mode says what is open;
* `Console.Consistent.congr` — the parts of the console that it reads;
* `Editor.edit`, `Console.Consistent.edit` — edits of the open session.
-/

namespace StubConsole

namespace Console

/-! ## The invariant -/

/-- The pages with a field of their own. -/
def linePages : List Page := [.recording, .importExport, .settings]

/-- The editor is on a stub of the kind that the page lists, and its session fits together; the
field of a page is open on a page that has one. -/
structure Placed (s : Console) : Prop where
  kind : ∀ e, s.editor.active = some e → s.page = e.kind.page
  session : ∀ e, s.editor.active = some e → e.session.Coherent
  line : s.lineInput.isSome = true → s.page ∈ linePages

/-- A field of the page is open, or a field of the editor, and not both. -/
inductive FieldOpen (s : Console) : Prop where
  | line : s.lineInput.isSome = true → s.editor.active = none → FieldOpen s
  | editor (e : Editor) : s.editor.active = some e → e.session.draft.isRaw = false →
      e.session.input.isSome = true → s.lineInput = none → FieldOpen s

structure Consistent (s : Console) : Prop extends Placed s where
  searching : s.mode = .searching → s.hasSearch = true ∧ s.editor.active = none
  editingField : s.mode = .editingField → s.FieldOpen
  editingJson : s.mode = .editingJson →
    ∃ e, s.editor.active = some e ∧ e.session.draft.isRaw = true
  dialog : s.mode = .dialog → s.scenarioPage.dialog.isSome = true

section Invariant

variable {s t : Console}

/-- In normal mode nothing has to be open. -/
theorem Placed.consistent (h : t.Placed) (hmode : t.mode = .normal) : t.Consistent where
  toPlaced := h
  searching := fun heq => nomatch hmode.symm.trans heq
  editingField := fun heq => nomatch hmode.symm.trans heq
  editingJson := fun heq => nomatch hmode.symm.trans heq
  dialog := fun heq => nomatch hmode.symm.trans heq

theorem Placed.congr (h : s.Placed) (hpage : t.page = s.page)
    (hline : t.lineInput.isSome = s.lineInput.isSome)
    (hactive : t.editor.active = s.editor.active) : t.Placed where
  kind := by
    rw [hactive, hpage]
    exact h.kind
  session := by
    rw [hactive]
    exact h.session
  line := by
    rw [hline, hpage]
    exact h.line

/-- Without an editor and without a field of the page there is nothing to place. -/
theorem placed_of_closed (hactive : t.editor.active = none) (hline : t.lineInput = none) :
    t.Placed where
  kind := by
    intro e he
    rw [hactive] at he
    cases he
  session := by
    intro e he
    rw [hactive] at he
    cases he
  line := by
    intro hopen
    rw [hline] at hopen
    cases hopen

/-- On the pages with stubs, where an editor can be, there is no field of the page. -/
theorem Placed.lineInput_eq_none (h : s.Placed) {e : Editor} (hactive : s.editor.active = some e) :
    s.lineInput = none := by
  cases hline : s.lineInput with
  | none => rfl
  | some input =>
      have hpage : e.kind.page ∈ linePages := by
        rw [← h.kind e hactive]
        exact h.line (by rw [hline]; rfl)
      cases hkind : e.kind <;> rw [hkind] at hpage <;> exact absurd hpage (by decide)

theorem hasSearch_congr (hpage : t.page = s.page) : t.hasSearch = s.hasSearch := by
  simp only [hasSearch, view?, hpage, Option.isSome_map]

/-- What is open stays open, and keys are for it or for the page. -/
theorem Consistent.congr (h : s.Consistent) (hpage : t.page = s.page)
    (hline : t.lineInput.isSome = s.lineInput.isSome)
    (hactive : t.editor.active = s.editor.active)
    (hmode : t.mode = s.mode ∨ t.mode = .normal)
    (hdialog : t.scenarioPage.dialog.isSome = s.scenarioPage.dialog.isSome ∨ t.mode = .normal) :
    t.Consistent := by
  have hplaced : t.Placed := h.toPlaced.congr hpage hline hactive
  rcases hmode with hmode | hmode
  · rcases hdialog with hdialog | hnormal
    · refine ⟨hplaced, ?_, ?_, ?_, ?_⟩
      · rw [hmode, hactive, hasSearch_congr hpage]
        exact h.searching
      · intro hfield
        rcases h.editingField (hmode.symm.trans hfield) with
          ⟨hopen, hnone⟩ | ⟨e, he, hraw, hinput, hnone⟩
        · exact .line (hline.trans hopen) (hactive.trans hnone)
        · have hclosed : t.lineInput = none := by simpa [hnone] using hline
          exact .editor e (hactive.trans he) hraw hinput hclosed
      · rw [hmode, hactive]
        exact h.editingJson
      · rw [hmode, hdialog]
        exact h.dialog
    · exact hplaced.consistent hnormal
  · exact hplaced.consistent hmode

/-- What is away from editor, lists and fields leaves modes right. -/
theorem Elsewhere.consistent (hrest : Elsewhere s t) (h : s.Consistent) : t.Consistent :=
  h.congr hrest.page (congrArg Option.isSome hrest.lineInput)
    (congrArg EditorPane.active hrest.editor) hrest.mode hrest.dialog

/-- Keys are for the page again, whatever is left open. -/
theorem Placed.toNormal (h : s.Placed) : { s with mode := .normal }.Consistent := by
  have hplaced : { s with mode := .normal }.Placed := h.congr rfl rfl rfl
  exact hplaced.consistent rfl

end Invariant

/-- Views and rows concern none of this. -/
theorem SameFocus.consistent {s t : Console} (hf : SameFocus s t) (h : s.Consistent) :
    t.Consistent :=
  h.congr hf.page (congrArg Option.isSome hf.lineInput) (congrArg EditorPane.active hf.editor)
    (.inl hf.mode) (.inl (congrArg Option.isSome hf.dialog))

/-! ## Edits of the open session -/

end Console

/-- The editor with its session after a step. -/
def Editor.edit (e : Editor) (step : SessionStep) : Editor :=
  { e with session := e.session.after step }

namespace Console

section Edits

variable {s : Console} {e : Editor}

theorem modifyEditor_eq_self (hactive : s.editor.active = none) (f : Editor → Editor) :
    s.modifyEditor f = s := by
  have hpane : s.editor.modify f = s.editor := by
    unfold EditorPane.modify
    rw [hactive, Option.map_none, ← hactive]
  unfold modifyEditor
  rw [hpane]

theorem modifyEditor_eq (hactive : s.editor.active = some e) (f : Editor → Editor) :
    s.modifyEditor f = s.modifyEditor fun _ => f e := by
  simp [modifyEditor, EditorPane.modify, hactive]

theorem active_modifyEditor (hactive : s.editor.active = some e) (f : Editor → Editor) :
    (s.modifyEditor f).editor.active = some (f e) := by
  simp [modifyEditor, EditorPane.modify, hactive]

theorem Placed.edit (h : s.Placed) (hactive : s.editor.active = some e) (step : SessionStep) :
    (s.modifyEditor fun _ => e.edit step).Placed where
  kind := by
    intro f hf
    rw [active_modifyEditor hactive] at hf
    cases hf
    exact h.kind e hactive
  session := by
    intro f hf
    rw [active_modifyEditor hactive] at hf
    cases hf
    exact Session.coherent_after (h.session e hactive) step
  line := h.line

/-- An edit that leaves draft and input as open as they were leaves the mode right. -/
theorem Consistent.edit (h : s.Consistent) (hactive : s.editor.active = some e)
    (step : SessionStep)
    (hraw : (e.edit step).session.draft.isRaw = e.session.draft.isRaw)
    (hinput : (e.edit step).session.input.isSome = e.session.input.isSome) :
    (s.modifyEditor fun _ => e.edit step).Consistent := by
  have hedited := active_modifyEditor hactive fun _ => e.edit step
  refine ⟨h.toPlaced.edit hactive step, ?_, ?_, ?_, h.dialog⟩
  · intro hmode
    have hnone := (h.searching hmode).2
    rw [hactive] at hnone
    cases hnone
  · intro hmode
    rcases h.editingField hmode with ⟨-, hnone⟩ | ⟨other, hother, hform, hopen, hline⟩
    · rw [hactive] at hnone
      cases hnone
    · rw [hactive] at hother
      cases hother
      exact .editor _ hedited (hraw.trans hform) (hinput.trans hopen) hline
  · intro hmode
    rcases h.editingJson hmode with ⟨other, hother, htext⟩
    rw [hactive] at hother
    cases hother
    exact ⟨_, hedited, hraw.trans htext⟩

end Edits

end Console

end StubConsole
