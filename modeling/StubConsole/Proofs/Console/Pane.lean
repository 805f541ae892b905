import StubConsole.Proofs.Console.Keys
import StubConsole.Proofs.Console.Steps

/-!
# Pane — what happens to the open editor

A key opens an editor, closes it, scrolls, or edits the draft.  What tells of calls that are under
way or answered — errors, the saving mark, the trial of the stub, the check of its WSDL document —
belongs to the commands and their answers.

* `Editor.SameMarks` — an edit that leaves errors and saving mark alone;
* `PaneStep` — the four things that can happen to the pane;
* `Console.paneStep_handleKey` — nothing else happens to it by a key;
* `Console.paneStep_after` — nor by anything but a command of an editor and its answer;
* `Console.InPane` — keys that change nothing but the pane, and leave the editor open.
-/

namespace StubConsole

/-! ## Edits -/

namespace Session

variable {α Field : Type} [Form α Field]

/-- The marks of calls: what the last save found wrong, and whether one is under way. -/
structure SameMarks (s t : Session α) : Prop where
  errors : t.errors = s.errors
  saving : t.saving = s.saving

theorem sameMarks_selectNext (s : Session α) : SameMarks s s.selectNext := by
  unfold selectNext
  split <;> exact ⟨rfl, rfl⟩

theorem sameMarks_activate (s : Session α) : SameMarks s s.activate.1 := by
  unfold activate
  split
  · split <;> exact ⟨rfl, rfl⟩
  · exact ⟨rfl, rfl⟩

theorem sameMarks_commitInput {s t : Session α} (h : s.commitInput = .ok t) : SameMarks s t := by
  unfold commitInput at h
  split at h
  next field input value _ _ _ =>
    cases hset : Form.setValue value field input.content with
    | error fault =>
        rw [hset] at h
        cases h
    | ok changed =>
        rw [hset] at h
        cases h
        exact ⟨rfl, rfl⟩
  next =>
    cases h
    exact ⟨rfl, rfl⟩

theorem sameMarks_toggleMode (s : Session α) : SameMarks s s.toggleMode.1 := by
  unfold toggleMode
  split <;> exact ⟨rfl, rfl⟩

theorem sameMarks_syncJson (s : Session α) : SameMarks s s.syncJson := by
  unfold syncJson
  split <;> exact ⟨rfl, rfl⟩

end Session

namespace Editor

def errors (e : Editor) : List String := e.session.errors

def saving (e : Editor) : Bool := e.session.saving

structure SameMarks (e f : Editor) : Prop where
  errors : f.errors = e.errors
  saving : f.saving = e.saving

theorem SameMarks.refl (e : Editor) : SameMarks e e := ⟨rfl, rfl⟩

/-- An edit of the session of an editor. -/
theorem SameMarks.of_session {e : Editor} {session : Session e.kind.Item}
    (h : e.session.SameMarks session) : SameMarks e { e with session } := ⟨h.errors, h.saving⟩

end Editor

/-! ## Steps of the pane -/

theorem EditorPane.isOpen_eq_false_iff {p : EditorPane} : p.isOpen = false ↔ p.active = none := by
  unfold isOpen
  exact Option.isSome_eq_false_iff.trans Option.isNone_iff_eq_none

theorem EditorPane.isOpen_modify (p : EditorPane) (f : Editor → Editor) :
    (p.modify f).isOpen = p.isOpen := by
  unfold modify isOpen
  exact Option.isSome_map

inductive PaneStep (p : EditorPane) : EditorPane → Prop where
  | closed : PaneStep p .closed
  | opened (kind : StubKind) (item : kind.Item) : PaneStep p (.opened (.opened kind item))
  | edited (f : Editor → Editor) (hf : ∀ e, p.active = some e → e.SameMarks (f e)) :
      PaneStep p (p.modify f)
  | scrolled (scroll : Nat) : PaneStep p { p with scroll }

namespace PaneStep

variable {p q : EditorPane}

theorem refl (p : EditorPane) : PaneStep p p := .scrolled p.scroll

theorem of_eq (h : q = p) : PaneStep p q := by
  rw [h]
  exact refl p

/-- An edit of the editor that is open. -/
theorem of_edit {e f : Editor} (hactive : p.active = some e) (h : e.SameMarks f) :
    PaneStep p (p.modify fun _ => f) := by
  refine .edited _ ?_
  intro other hother
  rw [hactive] at hother
  cases hother
  exact h

end PaneStep

namespace Console

/-! ## Actions -/

section Actions

variable (s : Console)

theorem paneStep_openNew : PaneStep s.editor s.openNew.editor := by
  unfold openNew
  split
  next kind _ => exact .opened kind kind.fresh
  next => exact .refl _

theorem exists_of_selectedEditor? {s : Console} {e : Editor} (h : s.selectedEditor? = some e) :
    ∃ (kind : StubKind) (item : kind.Item), s.page = kind.page ∧ e = .opened kind item := by
  unfold selectedEditor? at h
  rcases Option.bind_eq_some_iff.1 h with ⟨kind, hkind, h⟩
  rcases Option.bind_eq_some_iff.1 h with ⟨id, -, h⟩
  rcases Option.bind_eq_some_iff.1 h with ⟨item, -, h⟩
  cases h
  exact ⟨kind, item, StubKind.ofPage?_eq_some.1 hkind, rfl⟩

theorem paneStep_openSelected : PaneStep s.editor s.openSelected.editor := by
  unfold openSelected
  split
  -- what is opened is a record of the collection, as it is there
  next editor heditor =>
    rcases exists_of_selectedEditor? heditor with ⟨kind, item, -, rfl⟩
    exact .opened kind item
  next => exact .refl _

theorem paneStep_toggleJson : PaneStep s.editor s.toggleJson.editor := by
  unfold toggleJson
  split
  next => exact .refl _
  next e hactive =>
    have hedit := PaneStep.of_edit hactive
      (Editor.SameMarks.of_session (Session.sameMarks_toggleMode e.session))
    dsimp only
    split
    · exact hedit
    · exact hedit

theorem paneStep_apply (action : Action) : PaneStep s.editor (s.apply action).editor := by
  cases action with
  | goTo page => exact .closed
  | nextPage => exact .closed
  | prevPage => exact .closed
  -- views and rows are not of the pane
  | selectNext => exact .of_eq (SameFocus.selectNext s).editor
  | selectPrev => exact .of_eq (SameFocus.selectPrev s).editor
  | enterSearch =>
      refine .of_eq ?_
      simp only [apply, enterSearch]
      split
      · exact (SameFocus.modifyView s _).editor
      · rfl
  | appendSearch text => exact .of_eq (SameFocus.changeSearch s _).editor
  | backspaceSearch => exact .of_eq (SameFocus.changeSearch s _).editor
  | clearSearch => exact .of_eq (SameFocus.changeSearch s _).editor
  | cycleMethod => exact .of_eq (SameFocus.cycleMethod s).editor
  | cycleStatus => exact .of_eq (SameFocus.changeJournal s _).editor
  | toggleOrder => exact .of_eq (SameFocus.changeJournal s _).editor
  | toggleDetails => exact .of_eq (SameFocus.changeJournal s _).editor
  | openNew => exact paneStep_openNew s
  | openSelected => exact paneStep_openSelected s
  | closeEditor => exact .closed
  -- moving in the form is an edit that changes neither draft nor marks
  | nextTab => exact .edited _ fun e _ => .of_session ⟨rfl, rfl⟩
  | prevTab => exact .edited _ fun e _ => .of_session ⟨rfl, rfl⟩
  | nextField => exact .edited _ fun e _ => .of_session (Session.sameMarks_selectNext e.session)
  | prevField => exact .edited _ fun e _ => .of_session ⟨rfl, rfl⟩
  | toggleJson => exact paneStep_toggleJson s
  | scrollUp => exact .scrolled _
  | scrollDown => exact .scrolled _
  | openDialog =>
      refine .of_eq ?_
      simp only [apply, openDialog]
      split <;> rfl
  | _ => exact .refl _

end Actions

/-! ## Keys -/

section Keys

variable (s : Console) (key : Key)

theorem editor_handleSearchKey : (s.handleSearchKey key).editor = s.editor := by
  rcases SameFocus.handleSearchKey s key with ⟨_, hfocus⟩
  exact hfocus.editor

theorem editor_handleLineKey : (s.handleLineKey key).editor = s.editor := by
  rcases SameFocus.handleLineKey s key with ⟨_, _, hfocus⟩
  exact hfocus.editor

theorem paneStep_commitField {e : Editor} (hactive : s.editor.active = some e) :
    PaneStep s.editor (s.commitField e).editor := by
  unfold commitField
  split
  next session hcommit =>
    exact .of_edit hactive (.of_session (Session.sameMarks_commitInput hcommit))
  next => exact .refl _

theorem paneStep_handleFieldKey : PaneStep s.editor (s.handleFieldKey key).editor := by
  unfold handleFieldKey
  split
  next => exact .refl _
  next e hactive =>
    split
    next => exact .refl _
    next =>
      split
      · exact .of_edit hactive (.of_session ⟨rfl, rfl⟩)
      · split
        · exact paneStep_commitField s hactive
        · exact .of_edit hactive (.of_session ⟨rfl, rfl⟩)

/-- What was typed into a document goes into the draft and nowhere else. -/
theorem sameMarks_sync (e : Editor) (buffer : TextBuffer) :
    e.SameMarks { e with session := { e.session with json := some buffer }.syncJson } := by
  have hsync := Session.sameMarks_syncJson { e.session with json := some buffer }
  exact .of_session ⟨hsync.errors, hsync.saving⟩

theorem paneStep_formatDocument {e : Editor} (hactive : s.editor.active = some e) :
    PaneStep s.editor (s.formatDocument e).editor := by
  unfold formatDocument
  split
  next => exact .refl _
  next buffer _ =>
    split
    next after _ => exact .of_edit hactive (sameMarks_sync e after)
    next => exact .of_edit hactive (.of_session (Session.sameMarks_syncJson e.session))

theorem paneStep_typeDocument {e : Editor} (hactive : s.editor.active = some e) :
    PaneStep s.editor (s.typeDocument e key).editor := by
  unfold typeDocument
  split
  next => exact .refl _
  next =>
    split
    next => exact .refl _
    next after _ => exact .of_edit hactive (sameMarks_sync e after)

theorem paneStep_handleJsonKey : PaneStep s.editor (s.handleJsonKey key).1.editor := by
  unfold handleJsonKey
  split
  next => exact .refl _
  next e hactive =>
    split
    · exact .refl _
    · split
      · exact .refl _
      · split
        · exact paneStep_formatDocument s hactive
        · exact paneStep_typeDocument s key hactive

theorem paneStep_startEditing : PaneStep s.editor s.startEditing.editor := by
  unfold startEditing
  split
  next => exact .refl _
  next e hactive =>
    split
    · exact .refl _
    · split
      · exact .refl _
      · have hedit := PaneStep.of_edit hactive
          (Editor.SameMarks.of_session (Session.sameMarks_activate e.session))
        dsimp only
        split
        · exact hedit
        · exact hedit

theorem paneStep_handleEditorKey : PaneStep s.editor (s.handleEditorKey key).1.editor := by
  have hanswer := paneAnswer_handleEditorKey s key
  generalize s.handleEditorKey key = result at hanswer ⊢
  cases hanswer with
  | act action _ => exact paneStep_apply s action
  | edit => exact paneStep_startEditing s
  | _ => exact .refl _

theorem editor_handleDialogKey : (s.handleDialogKey key).1.editor = s.editor := by
  unfold handleDialogKey
  split
  case h_5 =>
    unfold submitDialog
    split
    · rfl
    · split
      · rfl
      · split <;> rfl
  all_goals rfl

theorem editor_pressDelete (kind : StubKind) : (s.pressDelete kind).1.editor = s.editor := by
  unfold pressDelete
  split
  · rfl
  · dsimp only
    split <;> exact (SameFocus.modifyView s _).editor

theorem paneStep_handleNormalKey : PaneStep s.editor (s.handleNormalKey key).1.editor := by
  have hanswer := pageAnswer_handleNormalKey s key
  generalize s.handleNormalKey key = result at hanswer ⊢
  cases hanswer with
  | act action => exact paneStep_apply s action
  | line =>
      refine .of_eq ?_
      dsimp only [done, beginLineInput]
      split <;> rfl
  | disarm => exact .of_eq (SameFocus.modifyView s _).editor
  | press kind _ _ => exact .of_eq (editor_pressDelete s kind)
  | _ => exact .refl _

theorem paneStep_handleKey : PaneStep s.editor (s.handleKey key).1.editor := by
  unfold handleKey
  split
  next => exact .of_eq (editor_handleSearchKey s key)
  next =>
    split
    · exact paneStep_handleFieldKey s key
    · exact .of_eq (editor_handleLineKey s key)
  next => exact paneStep_handleJsonKey s key
  next => exact .of_eq (editor_handleDialogKey s key)
  next =>
    split
    · exact paneStep_handleEditorKey s key
    · exact paneStep_handleNormalKey s key

end Keys

/-! ## Keys that stay in the pane -/

/-- All that changes is in the pane, apart from what keys are for and the notice, and the editor is
as open as it was. -/
structure InPane (s t : Console) : Prop where
  eq : t = { s with editor := t.editor, mode := t.mode, notice := t.notice }
  isOpen : t.editor.isOpen = s.editor.isOpen

namespace InPane

variable (s : Console)

theorem refl : InPane s s := ⟨rfl, rfl⟩

theorem modifyEditor (f : Editor → Editor) (mode : InputMode) (notice : Option Notice) :
    InPane s { s.modifyEditor f with mode, notice } :=
  ⟨rfl, EditorPane.isOpen_modify s.editor f⟩

theorem toggleJson : InPane s s.toggleJson := by
  unfold Console.toggleJson
  split
  · exact refl s
  · dsimp only
    split <;> exact modifyEditor s _ _ _

theorem handleFieldKey (key : Key) : InPane s (s.handleFieldKey key) := by
  unfold Console.handleFieldKey
  split
  · exact ⟨rfl, rfl⟩
  · split
    · exact ⟨rfl, rfl⟩
    · split
      · exact modifyEditor s _ _ _
      · split
        · unfold commitField
          split
          · exact modifyEditor s _ _ _
          · exact ⟨rfl, rfl⟩
        · exact modifyEditor s _ _ _

theorem handleJsonKey (key : Key) : InPane s (s.handleJsonKey key).1 := by
  unfold Console.handleJsonKey
  split
  · exact ⟨rfl, rfl⟩
  · split
    · exact ⟨rfl, rfl⟩
    · split
      · exact ⟨rfl, rfl⟩
      · split
        · dsimp only [done, formatDocument]
          split
          · exact refl s
          · split <;> exact modifyEditor s _ _ _
        · dsimp only [done, typeDocument]
          split
          · exact refl s
          · split
            · exact refl s
            · exact modifyEditor s _ _ _

theorem startEditing : InPane s s.startEditing := by
  unfold Console.startEditing
  split
  · exact refl s
  · split
    · exact refl s
    · split
      · exact ⟨rfl, rfl⟩
      · dsimp only
        split <;> exact modifyEditor s _ _ _

end InPane

/-! ## Other events -/

/-- What no editor asked for leaves the pane to the keys. -/
theorem paneStep_after (s : Console) (step : ConsoleStep) (h : step.ofEditor = false) :
    PaneStep s.editor (s.after step).editor := by
  -- a key, the redraw, or something that is not about the pane at all
  by_cases hkey : ∃ key, step = .press key
  · rcases hkey with ⟨key, rfl⟩
    exact paneStep_handleKey s key
  · by_cases hclamp : step = .clamp
    · rw [hclamp]
      exact .of_eq (SameFocus.modifyCursor s _).editor
    · exact .of_eq (elsewhere_after s step (fun key heq => hkey ⟨key, heq⟩) hclamp h).editor

end Console

end StubConsole
