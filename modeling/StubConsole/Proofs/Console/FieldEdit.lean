import StubConsole.Proofs.Console.Reached
import StubConsole.Proofs.TextBuffer.Editing

/-!
# FieldEdit — a text field is edited in one go

Between the key that opens a text field and the key that closes it, keys change the input and the
notice and nothing else.  Whatever was tried in between, the draft is then what it was or what
storing one text makes of it: the text that stood in the input when it was accepted.

* `typedInput` — the input after any keys: a buffer under those of them that do not store it;
* `Console.FieldSelected`, `Console.typing`, `Console.left` — the console before, meanwhile, after;
* `Console.FieldStep`, `FieldSelected.fieldStep_handleKey` — what one key does to an open field;
* `Console.StaysOpen`, `FieldSelected.run_typing` — what keys do while it stays open;
* `Console.field_edit_atomic` — all of it, from the key that opens the field.
-/

namespace StubConsole

/-! ## The input -/

/-- A key that stores the text of an open field: over several lines Enter is one more line. -/
def isCommit (multiline : Bool) (key : Key) : Bool :=
  Console.isSave key || (key.code = .enter && !multiline)

/-- The input after keys that left it open.  Trying to store the text leaves no trace. -/
def typedInput (multiline : Bool) (content : String) (keys : List Key) : TextBuffer :=
  (TextBuffer.opened multiline content).run
    ((keys.filter fun key => !isCommit multiline key).map .key)

section Inputs

variable (multiline : Bool) (content : String)

theorem multiline_typedInput (keys : List Key) :
    (typedInput multiline content keys).multiline = multiline := by
  rcases TextBuffer.shows_opened multiline content with ⟨hopened, hmultiline⟩
  rcases TextBuffer.exists_run (.start multiline content) _ _ with ⟨_, hrun⟩
  exact (TextBuffer.shows_run hopened hrun).2.trans hmultiline

theorem typedInput_concat (keys : List Key) (key : Key) :
    typedInput multiline content (keys ++ [key])
      = if isCommit multiline key then typedInput multiline content keys
        else ((typedInput multiline content keys).handleKey key).1 := by
  unfold typedInput
  rw [List.filter_append, List.map_append, TextBuffer.run, List.foldl_append]
  cases hcommit : isCommit multiline key with
  | true => simp [hcommit, TextBuffer.run]
  | false => simp [hcommit, TextBuffer.run, TextBuffer.edit]

end Inputs

/-! ## The editor -/

namespace Editor

def withInput (e : Editor) (input : Option TextBuffer) : Editor :=
  { e with session := { e.session with input } }

/-- A value takes the place of the draft, and the input is closed. -/
def withStored (e : Editor) (value : e.kind.Item) : Editor :=
  { e with session := { e.session with draft := .structured value, input := none } }

end Editor

theorem EditorPane.modify_modify (p : EditorPane) (f g : Editor → Editor) :
    (p.modify f).modify g = p.modify fun e => g (f e) := by
  simp only [EditorPane.modify, Option.map_map, Function.comp_def]

namespace Console

/-- Nothing is typed and nothing is saved, and a text field of a form is selected. -/
structure FieldSelected (s : Console) (e : Editor) (value : e.kind.Item) (field : e.kind.Field) :
    Prop where
  mode : s.mode = .normal
  active : s.editor.active = some e
  line : s.lineInput = none
  draft : e.session.draft = .structured value
  selected : e.session.currentField? = some field
  isText : (Form.kind e.kind.Item field).isText = true
  idle : e.session.saving = false

/-- The console with an input open on the selected field. -/
def typing (s : Console) (e : Editor) (input : TextBuffer) (notice : Option Notice) : Console :=
  { s.modifyEditor fun _ => e.withInput (some input) with mode := .editingField, notice }

/-- The console with the field closed and the editor as it is now. -/
def left (s : Console) (e : Editor) (notice : Option Notice) : Console :=
  { s.modifyEditor fun _ => e with mode := .normal, notice }

/-- The field stays open at each of the keys. -/
def StaysOpen (s : Console) (keys : List Key) : Prop :=
  ∀ front, front <+: keys → (s.run (front.map .press)).mode = .editingField

theorem staysOpen_iff_take {s : Console} {keys : List Key} :
    s.StaysOpen keys ↔
      ∀ n < keys.length + 1, (s.run ((keys.take n).map .press)).mode = .editingField := by
  constructor
  · intro h n _
    exact h _ (List.take_prefix n keys)
  · intro h front hfront
    rw [List.prefix_iff_eq_take.1 hfront]
    exact h _ (Nat.lt_succ_of_le hfront.length_le)

instance (s : Console) (keys : List Key) : Decidable (s.StaysOpen keys) :=
  decidable_of_iff _ staysOpen_iff_take.symm

variable {s : Console} {e : Editor} {value : e.kind.Item} {field : e.kind.Field}

/-- On the pages with an editor the line for the field of a page is closed in every run. -/
theorem Placed.fieldSelected (h : s.Placed) (hmode : s.mode = .normal)
    (hactive : s.editor.active = some e) (hdraft : e.session.draft = .structured value)
    (hselected : e.session.currentField? = some field)
    (hkind : (Form.kind e.kind.Item field).isText = true) (hidle : e.session.saving = false) :
    s.FieldSelected e value field :=
  ⟨hmode, hactive, h.lineInput_eq_none hactive, hdraft, hselected, hkind, hidle⟩

/-- The input that the selected field is opened with, after keys. -/
def inputAfter (e : Editor) (value : e.kind.Item) (field : e.kind.Field) (keys : List Key) :
    TextBuffer :=
  typedInput (Form.kind e.kind.Item field = .multiline) (Form.value value field) keys

/-- What a key does while the field is open, by what it is and by what the field makes of the
text. -/
inductive FieldStep (s : Console) (e : Editor) (value : e.kind.Item) (field : e.kind.Field)
    (input : TextBuffer) (notice : Option Notice) (key : Key) : KeyResult → Prop where
  | dropped (hkey : key.code = .escape) :
      FieldStep s e value field input notice key (done (s.left (e.withInput none) notice))
  | stored {after : e.kind.Item} (hkey : isCommit input.multiline key = true)
      (hafter : Form.setValue value field input.content = .ok after) :
      FieldStep s e value field input notice key (done (s.left (e.withStored after) none))
  | refused {fault : FieldError} (hkey : isCommit input.multiline key = true)
      (hfault : Form.setValue value field input.content = .error fault) :
      FieldStep s e value field input notice key
        (done (s.typing e input (some (.error fault.message))))
  | typed (hescape : key.code ≠ .escape) (hkey : isCommit input.multiline key = false) :
      FieldStep s e value field input notice key
        (done (s.typing e (input.handleKey key).1 notice))

/-! ## One key -/

-- only the last editor that is put into the pane counts

theorem left_typing (s : Console) (e e' : Editor) (input : TextBuffer)
    (notice notice' : Option Notice) :
    (s.typing e input notice).left e' notice' = s.left e' notice' := by
  simp only [left, typing, modifyEditor, EditorPane.modify_modify]

theorem typing_typing (s : Console) (e : Editor) (input input' : TextBuffer)
    (notice notice' : Option Notice) :
    (s.typing e input notice).typing e input' notice' = s.typing e input' notice' := by
  simp only [typing, modifyEditor, EditorPane.modify_modify]

namespace FieldSelected

/-- An input is opened on the text that the field shows. -/
theorem handleKey_enter (h : s.FieldSelected e value field) {key : Key} (hkey : key.code = .enter) :
    s.handleKey key = done (s.typing e (inputAfter e value field []) s.notice) := by
  have hopen : s.editor.isOpen = true := by
    rw [EditorPane.isOpen, h.active]
    rfl
  have hkeys : s.handleKey key = done s.startEditing := by
    simp only [handleKey, h.mode, hopen, if_true, handleEditorKey, hkey]
  have hactivate : e.session.activate
      = ({ e.session with input := some (inputAfter e value field []) }, true) := by
    have htext := h.isText
    unfold inputAfter
    cases hkind : Form.kind e.kind.Item field with
    | line =>
        simp only [Session.activate, h.selected, h.draft, hkind]
        rfl
    | multiline =>
        simp only [Session.activate, h.selected, h.draft, hkind]
        rfl
    | cycle | toggle =>
        -- a field with choices is no text field
        rw [hkind] at htext
        cases htext
  have hidle : ¬ e.session.saving = true := by simp [h.idle]
  have hform : ¬ e.session.draft.isRaw = true := by simp [h.draft, Draft.isRaw]
  rw [hkeys, startEditing, h.active]
  dsimp only
  rw [if_neg hidle, if_neg hform, hactivate]
  rfl

variable (h : s.FieldSelected e value field) (input : TextBuffer) (notice : Option Notice)

include h

theorem active_typing :
    (s.typing e input notice).editor.active = some (e.withInput (some input)) :=
  active_modifyEditor h.active _

/-- The key is for the open field alone: the page has no field of its own that could take it. -/
theorem handleKey_typing (key : Key) :
    (s.typing e input notice).handleKey key
      = done (
          if key.code = .escape then s.left (e.withInput none) notice
          else if isCommit input.multiline key then
            (s.typing e input notice).commitField (e.withInput (some input))
          else s.typing e (input.handleKey key).1 notice) := by
  have hopen : (s.typing e input notice).editor.isOpen = true := by
    rw [EditorPane.isOpen, h.active_typing]
    rfl
  have hline : (s.typing e input notice).lineInput = none := h.line
  have hmode : (s.typing e input notice).mode = .editingField := rfl
  have hfield : (s.typing e input notice).handleKey key
      = done ((s.typing e input notice).handleFieldKey key) := by
    unfold handleKey
    rw [hmode]
    refine if_pos ?_
    rw [hopen, hline]
    rfl
  rw [hfield, ← left_typing s e _ input notice,
    ← typing_typing s e input (input.handleKey key).1 notice notice]
  unfold handleFieldKey
  rw [h.active_typing]
  rfl

theorem commitInput_typing :
    (e.withInput (some input)).session.commitInput
      = (Form.setValue value field input.content).map
          fun after => (e.withStored after).session := by
  have hselected : (e.withInput (some input)).session.currentField? = some field := h.selected
  have hdraft : (e.withInput (some input)).session.draft = .structured value := h.draft
  unfold Session.commitInput
  rw [hselected, hdraft]
  rfl

/-- The draft is replaced as a whole, and only by what the field made of the whole text. -/
theorem fieldStep_commitField {key : Key} (hkey : isCommit input.multiline key = true) :
    FieldStep s e value field input notice key
      (done ((s.typing e input notice).commitField (e.withInput (some input)))) := by
  unfold commitField
  rw [h.commitInput_typing]
  cases hset : Form.setValue value field input.content with
  | ok after =>
      have hstored : FieldStep s e value field input notice key
          (done (s.left (e.withStored after) none)) := .stored hkey hset
      rw [← left_typing s e _ input notice] at hstored
      exact hstored
  | error fault => exact .refused hkey hset

/-- A key is for the input, or it closes the field, or the field refuses the text. -/
theorem fieldStep_handleKey (key : Key) :
    FieldStep s e value field input notice key ((s.typing e input notice).handleKey key) := by
  rw [h.handleKey_typing]
  split
  next hescape => exact .dropped hescape
  next hescape =>
    split
    next hkey => exact h.fieldStep_commitField input notice hkey
    next hkey => exact .typed hescape (Bool.eq_false_iff.2 hkey)

end FieldSelected

/-! ## Any keys -/

theorem StaysOpen.of_concat {keys : List Key} {key : Key} (h : s.StaysOpen (keys ++ [key])) :
    s.StaysOpen keys := by
  intro front hfront
  exact h front (hfront.trans (List.prefix_append keys [key]))

theorem inputAfter_concat (e : Editor) (value : e.kind.Item) (field : e.kind.Field)
    (keys : List Key) (key : Key) :
    inputAfter e value field (keys ++ [key])
      = if isCommit (inputAfter e value field keys).multiline key then
          inputAfter e value field keys
        else ((inputAfter e value field keys).handleKey key).1 := by
  unfold inputAfter
  rw [typedInput_concat, multiline_typedInput]

/-- While the field stays open, all that keys did is in the input and in the notice. -/
theorem FieldSelected.run_typing (h : s.FieldSelected e value field) (notice : Option Notice)
    {keys : List Key}
    (hopen : (s.typing e (inputAfter e value field []) notice).StaysOpen keys) :
    ∃ notice', (s.typing e (inputAfter e value field []) notice).run (keys.map .press)
      = s.typing e (inputAfter e value field keys) notice' := by
  -- from the last key backwards, since the input is the one after the keys before it
  induction keys using List.reverseRecOn with
  | nil => exact ⟨notice, rfl⟩
  | append_singleton keys key ih =>
      rcases ih hopen.of_concat with ⟨notice', hrun⟩
      have hlast := hopen (keys ++ [key]) (List.prefix_refl _)
      rw [List.map_append, run_append, hrun] at hlast ⊢
      have hstep := h.fieldStep_handleKey (inputAfter e value field keys) notice' key
      rw [inputAfter_concat]
      simp only [List.map_cons, List.map_nil, run_cons, run_nil, after] at hlast ⊢
      generalize (s.typing e (inputAfter e value field keys) notice').handleKey key = r
        at hstep hlast ⊢
      -- two of the four ways leave the mode, and there the run has ended
      cases hstep with
      | dropped => cases hlast
      | stored => cases hlast
      | refused hkey hfault =>
          rw [if_pos hkey]
          exact ⟨_, rfl⟩
      | typed hescape hkey =>
          rw [if_neg (Bool.eq_false_iff.1 hkey)]
          exact ⟨_, rfl⟩

/-- Enter opens the selected field, and from then on an edit of it is one store at most.  As long
as the field stays open, no key has touched the draft, the tab, the selection or the identifier,
however often a text was refused.  Then the next key drops the input, or stores its text in the
draft from before, or leaves the input open: as it was, if the text is refused. -/
theorem field_edit_atomic (h : s.FieldSelected e value field) {enter : Key}
    (henter : enter.code = .enter) :
    s.handleKey enter = done (s.typing e (inputAfter e value field []) s.notice) ∧
      ∀ keys, (s.typing e (inputAfter e value field []) s.notice).StaysOpen keys →
        ∃ notice,
          (s.typing e (inputAfter e value field []) s.notice).run (keys.map .press)
              = s.typing e (inputAfter e value field keys) notice ∧
            ∀ key, FieldStep s e value field (inputAfter e value field keys) notice key
              ((s.typing e (inputAfter e value field keys) notice).handleKey key) := by
  refine ⟨h.handleKey_enter henter, ?_⟩
  intro keys hopen
  rcases h.run_typing s.notice hopen with ⟨notice, hrun⟩
  exact ⟨notice, hrun, h.fieldStep_handleKey (inputAfter e value field keys) notice⟩

/-- A new stub on the tab with its response, where the status is selected. -/
def statusEditor : Editor := ⟨.rest, { Session.opened Stub.fresh with tab := .response }⟩

def statusRun : List ConsoleStep :=
  [.press (.ofChar '2'), .press (.ofChar 'n'), .press (.plain .tab)]

def statusConsole : Console := initial.run statusRun

/-- The status is made `200x`, which is refused, and then `201`. -/
def statusKeys : List Key :=
  [.ofChar 'x', .plain .enter, .plain .backspace, .plain .backspace, .ofChar '1']

def statusTyped : TextBuffer := ⟨"201", 3, false, true⟩

theorem field_edit_atomic_status :
    ∃ notice,
      ((statusConsole.handleKey (.plain .enter)).1.run (statusKeys.map .press)
        = statusConsole.typing statusEditor statusTyped notice) ∧
      notice = some (.error FieldError.badStatus.message) ∧
      (statusConsole.typing statusEditor statusTyped notice).handleKey (.plain .enter)
        = done (statusConsole.left
            (statusEditor.withStored { Stub.fresh with response.status := 201 }) none) := by
  have hplaced : statusConsole.Placed := (consistent_run consistent_initial statusRun).toPlaced
  have hselected : statusConsole.FieldSelected statusEditor Stub.fresh RestField.status :=
    hplaced.fieldSelected rfl rfl rfl rfl rfl rfl
  have hinput : inputAfter statusEditor Stub.fresh RestField.status statusKeys = statusTyped := by
    decide +kernel
  have hset : Stub.fresh.setField .status statusTyped.content
      = .ok { Stub.fresh with response.status := 201 } := by
    rfl
  have hopen : (statusConsole.typing statusEditor
      (inputAfter statusEditor Stub.fresh RestField.status []) statusConsole.notice).StaysOpen
        statusKeys := by
    decide +kernel
  have henter : (Key.plain .enter).code = .enter := rfl
  rcases field_edit_atomic hselected henter with ⟨hfirst, hkeys⟩
  rcases hkeys statusKeys hopen with ⟨notice, hrun, hnext⟩
  have hnotice : some (.error FieldError.badStatus.message) = notice :=
    congrArg Console.notice hrun
  rw [hinput] at hrun hnext
  have hlast := hnext (.plain .enter)
  refine ⟨notice, ?_, hnotice.symm, ?_⟩
  · rw [hfirst]
    exact hrun
  · generalize (statusConsole.typing statusEditor statusTyped notice).handleKey (.plain .enter) = r
      at hlast ⊢
    cases hlast with
    | dropped hkey => cases hkey
    | stored hkey hafter =>
        cases hset.symm.trans hafter
        rfl
    | refused hkey hfault => cases hset.symm.trans hfault
    | typed hescape hkey => cases hkey

end Console

end StubConsole
