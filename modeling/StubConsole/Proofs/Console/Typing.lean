import StubConsole.Proofs.Console.Modes
import StubConsole.Proofs.Console.TwoPresses

/-!
# Typing — keys while something is typed

In every mode but the normal one a key is for what is open.  It keeps modes right, and if it is a
character it is text: no command, no other page, no other mode.

* `Console.Consistent.handleTypingKey` — keys of the four modes keep modes right;
* `Console.Typed`, `Console.typed_handleKey` — a character in one of them is text.
-/

namespace StubConsole

namespace Console

variable {s : Console}

/-! ## Modes stay right -/

namespace Consistent

theorem modifyDialog (h : s.Consistent) (f : ScenarioDialog → ScenarioDialog) :
    (s.modifyDialog f).Consistent :=
  (Elsewhere.modifyDialog s f).consistent h

theorem withNotice (h : s.Consistent) (notice : Option Notice) :
    { s with notice }.Consistent :=
  h.congr rfl rfl rfl (.inl rfl) (.inl rfl)

theorem handleSearchKey (h : s.Consistent) (key : Key) : (s.handleSearchKey key).Consistent := by
  have htyped : ∀ f, (s.changeSearch f).Consistent := by
    intro f
    exact (SameFocus.changeSearch s f).consistent h
  unfold Console.handleSearchKey
  split
  · exact h.toNormal
  · exact (htyped _).toNormal
  · exact htyped _
  · split
    · exact htyped _
    · split
      · exact htyped _
      · exact h
  · exact h

/-- Keys for the field of the page, which may have been closed by an answer. -/
theorem handleLineKey (h : s.Consistent) (key : Key) : (s.handleLineKey key).Consistent := by
  have hclosed : s.closeLine.Placed := ⟨h.kind, h.session, fun hopen => nomatch hopen⟩
  unfold Console.handleLineKey
  split
  next => exact h.toNormal
  next input hinput =>
    split
    · exact hclosed.consistent rfl
    · exact (SameFocus.storeLine _ _).consistent (hclosed.consistent rfl)
    · refine h.congr rfl ?_ rfl (.inl rfl) (.inl rfl)
      rw [hinput]
      rfl

theorem commitField (h : s.Consistent) {e : Editor} (hactive : s.editor.active = some e) :
    (s.commitField e).Consistent := by
  unfold Console.commitField
  split
  next session hcommit =>
    have hstep : e.edit .commit = { e with session } := by
      simp only [Editor.edit, Session.after, hcommit]
    have hedited := h.toPlaced.edit hactive .commit
    rw [hstep] at hedited
    exact hedited.toNormal.withNotice none
  -- what is refused stays open
  next fault _ => exact h.withNotice _

theorem handleFieldKey (h : s.Consistent) (key : Key) : (s.handleFieldKey key).Consistent := by
  unfold Console.handleFieldKey
  split
  next => exact h.toNormal
  next e hactive =>
    split
    next => exact h.toNormal
    next input hinput =>
      split
      · exact (h.toPlaced.edit hactive .cancel).toNormal
      · split
        · exact h.commitField hactive
        -- the text of the input changes, and the input stays open
        · have hstep : e.edit (.typeField fun _ => (input.handleKey key).1)
              = { e with session := { e.session with input := some (input.handleKey key).1 } } := by
            simp only [Editor.edit, Session.after, hinput, Option.map_some]
          rw [← hstep]
          refine h.edit hactive _ rfl ?_
          rw [hstep, hinput]
          rfl

/-- The draft follows its document and stays a text. -/
theorem syncDocument (h : s.Consistent) {e : Editor} (hactive : s.editor.active = some e)
    {before : TextBuffer} (hjson : e.session.json = some before) (after : TextBuffer) :
    (s.modifyEditor fun _ =>
      { e with session := { e.session with json := some after }.syncJson }).Consistent := by
  have hstep : e.edit (.typeJson fun _ => after)
      = { e with session := { e.session with json := some after }.syncJson } := by
    simp only [Editor.edit, Session.after, hjson, Option.map_some]
  rw [← hstep]
  refine h.edit hactive _ ?_ ?_
  · rw [hstep]
    exact Session.isRaw_syncJson _
  · rw [hstep]
    exact congrArg Option.isSome (Session.input_syncJson _)

theorem formatDocument (h : s.Consistent) {e : Editor} (hactive : s.editor.active = some e) :
    (s.formatDocument e).Consistent := by
  unfold Console.formatDocument
  split
  next => exact h
  next buffer hjson =>
    split
    next after _ => exact h.syncDocument hactive hjson after
    -- a text that is no document stays as it is
    next message _ =>
      have hsame := h.syncDocument hactive hjson buffer
      rw [← hjson] at hsame
      exact hsame.withNotice _

theorem typeDocument (h : s.Consistent) {e : Editor} (hactive : s.editor.active = some e)
    (key : Key) : (s.typeDocument e key).Consistent := by
  unfold Console.typeDocument
  split
  next => exact h
  next buffer hjson =>
    split
    next => exact h
    next after _ => exact h.syncDocument hactive hjson after

theorem handleJsonKey (h : s.Consistent) (key : Key) : (s.handleJsonKey key).1.Consistent := by
  unfold Console.handleJsonKey
  split
  next => exact h.toNormal
  next e hactive =>
    split
    · exact h.toNormal
    · split
      · exact h.toNormal
      · split
        · exact h.formatDocument hactive
        · exact h.typeDocument hactive key

theorem handleDialogKey (h : s.Consistent) (key : Key) : (s.handleDialogKey key).1.Consistent := by
  unfold Console.handleDialogKey
  split
  · exact h.congr rfl rfl rfl (.inr rfl) (.inr rfl)
  · exact h.modifyDialog _
  · exact h.modifyDialog _
  · exact h.modifyDialog _
  · unfold submitDialog
    split
    · exact h
    · split
      · exact h
      · split
        · exact h
        · exact h.modifyDialog _
  · exact h.modifyDialog _

theorem handleTypingKey (h : s.Consistent) (hmode : s.mode ≠ .normal) (key : Key) :
    (s.handleKey key).1.Consistent := by
  unfold Console.handleKey
  split
  next => exact h.handleSearchKey key
  next =>
    split
    · exact h.handleFieldKey key
    · exact h.handleLineKey key
  next => exact h.handleJsonKey key
  next => exact h.handleDialogKey key
  next hnormal => exact absurd hnormal hmode

end Consistent

/-! ## A character is text -/

/-- The key asked for nothing, and all that it changed is a text. -/
structure Typed (s : Console) (r : KeyResult) : Prop where
  command : r.2 = none
  quit : r.1.quit = s.quit
  page : r.1.page = s.page
  mode : r.1.mode = s.mode
  isOpen : r.1.editor.isOpen = s.editor.isOpen
  collection : ∀ c, r.1.collection c = s.collection c

namespace Typed

theorem refl (s : Console) : Typed s (done s) := ⟨rfl, rfl, rfl, rfl, rfl, fun _ => rfl⟩

theorem of_sameFocus {t : Console} (h : SameFocus s t) : Typed s (done t) where
  command := rfl
  quit := h.quit
  page := h.page
  mode := h.mode
  isOpen := congrArg EditorPane.isOpen h.editor
  collection := h.collection

theorem modifyEditor (s : Console) (f : Editor → Editor) : Typed s (done (s.modifyEditor f)) where
  command := rfl
  quit := rfl
  page := rfl
  mode := rfl
  isOpen := Option.isSome_map
  collection := fun _ => rfl

end Typed

section Characters

variable {key : Key} {c : Char}

theorem typed_handleSearchKey (hcode : key.code = .char c) (hctrl : key.ctrl = false) :
    Typed s (done (s.handleSearchKey key)) := by
  have hsearch : s.handleSearchKey key = s.changeSearch (· ++ String.singleton c) := by
    simp only [Console.handleSearchKey, hcode, hctrl, Bool.not_false, if_true, Console.apply]
  rw [hsearch]
  exact .of_sameFocus (.changeSearch s _)

theorem typed_handleLineKey (hcode : key.code = .char c) (hopen : s.lineInput.isSome = true) :
    Typed s (done (s.handleLineKey key)) := by
  rcases Option.isSome_iff_exists.1 hopen with ⟨input, hinput⟩
  simp only [Console.handleLineKey, hinput, hcode]
  exact ⟨rfl, rfl, rfl, rfl, rfl, fun _ => rfl⟩

theorem typed_handleFieldKey {e : Editor} (hcode : key.code = .char c) (hctrl : key.ctrl = false)
    (hactive : s.editor.active = some e) (hopen : e.session.input.isSome = true) :
    Typed s (done (s.handleFieldKey key)) := by
  rcases Option.isSome_iff_exists.1 hopen with ⟨input, hinput⟩
  have htype : s.handleFieldKey key = s.modifyEditor fun _ =>
      { e with session := { e.session with input := some (input.handleKey key).1 } } := by
    simp [Console.handleFieldKey, hactive, hinput, hcode, isSave, hctrl]
  rw [htype]
  exact .modifyEditor s _

theorem typed_handleJsonKey {e : Editor} (hcode : key.code = .char c) (hctrl : key.ctrl = false)
    (hactive : s.editor.active = some e) : Typed s (s.handleJsonKey key) := by
  have htype : s.handleJsonKey key = done (s.typeDocument e key) := by
    simp [Console.handleJsonKey, hactive, hcode, isSave, hctrl]
  rw [htype]
  unfold Console.typeDocument
  split
  · exact .refl s
  · split
    · exact .refl s
    · exact .modifyEditor s _

theorem typed_handleDialogKey (hcode : key.code = .char c) : Typed s (s.handleDialogKey key) := by
  simp only [Console.handleDialogKey, hcode]
  exact ⟨rfl, rfl, rfl, rfl, rfl, fun _ => rfl⟩

/-- What is open decides where the character goes, and it is never a command. -/
theorem typed_handleKey (h : s.Consistent) (hmode : s.mode ≠ .normal) (hcode : key.code = .char c)
    (hctrl : key.ctrl = false) : Typed s (s.handleKey key) := by
  unfold Console.handleKey
  split
  next => exact typed_handleSearchKey hcode hctrl
  next hfield =>
    -- the field that is open is of the page or of the editor, and the key goes to that one
    rcases h.editingField hfield with ⟨hopen, hnone⟩ | ⟨e, hactive, -, hopen, hnone⟩
    · have hclosed : (s.editor.isOpen && s.lineInput.isNone) = false := by
        simp [EditorPane.isOpen, hnone]
      rw [hclosed, if_neg Bool.false_ne_true]
      exact typed_handleLineKey hcode hopen
    · have heditor : (s.editor.isOpen && s.lineInput.isNone) = true := by
        simp [EditorPane.isOpen, hactive, hnone]
      rw [heditor, if_pos rfl]
      exact typed_handleFieldKey hcode hctrl hactive hopen
  next hjson =>
    rcases h.editingJson hjson with ⟨e, hactive, -⟩
    exact typed_handleJsonKey hcode hctrl hactive
  next => exact typed_handleDialogKey hcode
  next hnormal => exact absurd hnormal hmode

end Characters

end Console

end StubConsole
