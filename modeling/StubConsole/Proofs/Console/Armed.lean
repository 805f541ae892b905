import StubConsole.Proofs.Console.Keys
import StubConsole.Proofs.Console.Steps

/-!
# Armed — the row that the next press deletes

One row of one list at most is armed, and it can be seen.  Nothing but a press on a row arms one:
with nothing armed, every other action and every key for a text field, a dialog or an editor
leaves it so.

* `Console.armed?`, `Console.Unarmed` — the armed row of a list, and none in any;
* `Console.ArmedOn`, `Console.ArmedInSight` — where the armed row can be;
* `Console.Unarmed.apply` and the lemmas after it — what keeps the lists unarmed.
-/

namespace StubConsole

/-! ## Armed rows -/

namespace DeleteConfirm

variable {c : DeleteConfirm} {id : String}

theorem press_of_armed (h : c.armed = some id) : c.press id = (disarmed, true) := if_pos h

theorem press_of_ne (h : c.armed ≠ some id) : c.press id = (⟨some id⟩, false) := if_neg h

end DeleteConfirm

namespace Console

/-- The stub that the next press deletes, in the list of a kind. -/
def armed? (s : Console) (kind : StubKind) : Option String := (s.viewOf kind).confirm.armed

def Unarmed (s : Console) : Prop := ∀ kind, s.armed? kind = none

/-- One stub is armed, the list that shows it is on the screen, and keys are meant for that list. -/
structure ArmedOn (s : Console) (kind : StubKind) (id : String) : Prop where
  only : ∀ other, s.armed? other = if other = kind then some id else none
  page : s.page = kind.page
  mode : s.mode = .normal
  closed : s.editor.isOpen = false

/-- What is armed can be seen, and is armed alone. -/
def ArmedInSight (s : Console) : Prop :=
  ∀ kind id, s.armed? kind = some id → s.ArmedOn kind id

section Armed

variable {s t : Console} {kind : StubKind} {id : String}

theorem armed?_congr (h : ∀ kind, t.viewOf kind = s.viewOf kind) (kind : StubKind) :
    t.armed? kind = s.armed? kind := by
  unfold armed?
  rw [h kind]

@[simp] theorem armed?_modifyCursor (s : Console) (f : Nat → Nat) (kind : StubKind) :
    (s.modifyCursor f).armed? kind = s.armed? kind := by
  rcases viewOf_modifyCursor s f kind with ⟨selected, hview⟩
  unfold armed?
  rw [hview]

/-- Where no row can be armed, none is. -/
theorem ArmedInSight.unarmed (h : s.ArmedInSight) (hnone : ∀ kind id, ¬s.ArmedOn kind id) :
    s.Unarmed := by
  intro kind
  cases harmed : s.armed? kind with
  | none => rfl
  | some id => exact absurd (h kind id harmed) (hnone kind id)

theorem ArmedInSight.unarmed_of_page (h : s.ArmedInSight)
    (hpage : StubKind.ofPage? s.page = none) : s.Unarmed := by
  refine h.unarmed ?_
  intro kind id hon
  rw [StubKind.ofPage?_eq_some.2 hon.page] at hpage
  cases hpage

/-- An armed list is the one of the page. -/
theorem ArmedInSight.eq_of_page (h : s.ArmedInSight) (harmed : s.armed? kind = some id)
    {other : StubKind} (hpage : s.page = other.page) : kind = other := by
  have hkind := (h kind id harmed).page
  rw [hpage] at hkind
  cases kind <;> cases other <;> first | rfl | cases hkind

end Armed

/-- Disarming the list on the screen disarms all there is. -/
theorem ArmedInSight.modifyView {s : Console} (h : s.ArmedInSight) {f : ListView → ListView}
    (hf : ∀ v, (f v).confirm = .disarmed) : (s.modifyView f).Unarmed := by
  intro kind
  unfold armed?
  rw [viewOf_modifyView]
  split
  next => rw [hf]; rfl
  -- what is armed is in the list of the page, so the other lists have nothing to lose
  next hpage =>
    cases harmed : s.armed? kind with
    | none => exact harmed
    | some id => exact absurd (StubKind.ofPage?_eq_some.2 (h kind id harmed).page) hpage

/-! ## Changes that arm nothing -/

namespace Unarmed

variable {s t : Console}

theorem of_viewOf (h : s.Unarmed) (hview : ∀ kind, t.viewOf kind = s.viewOf kind) : t.Unarmed := by
  intro kind
  rw [armed?_congr hview kind]
  exact h kind

theorem of_lists (h : s.Unarmed) (hstubs : t.stubList = s.stubList)
    (hgraphQl : t.graphQlList = s.graphQlList) (hsoap : t.soapList = s.soapList) : t.Unarmed := by
  refine h.of_viewOf ?_
  intro kind
  cases kind with
  | rest => exact hstubs
  | graphQl => exact hgraphQl
  | soap => exact hsoap

theorem modifyView (h : s.Unarmed) {f : ListView → ListView}
    (hf : ∀ v, v.confirm.armed = none → (f v).confirm.armed = none) : (s.modifyView f).Unarmed := by
  intro kind
  unfold armed?
  rw [viewOf_modifyView]
  split
  · exact hf _ (h kind)
  · exact h kind

/-! ### Actions -/

theorem goTo (h : s.Unarmed) (page : Page) : (s.goTo page).Unarmed :=
  (h.modifyView fun _ _ => rfl).of_lists rfl rfl rfl

theorem modifyJournal (h : s.Unarmed) (f : JournalView → JournalView) :
    (s.modifyJournal f).Unarmed := h.of_lists rfl rfl rfl

theorem modifyEditor (h : s.Unarmed) (f : Editor → Editor) : (s.modifyEditor f).Unarmed :=
  h.of_lists rfl rfl rfl

theorem modifyDialog (h : s.Unarmed) (f : ScenarioDialog → ScenarioDialog) :
    (s.modifyDialog f).Unarmed := h.of_lists rfl rfl rfl

theorem modifyCursor (h : s.Unarmed) (f : Nat → Nat) : (s.modifyCursor f).Unarmed := by
  intro kind
  rw [armed?_modifyCursor]
  exact h kind

theorem selectNext (h : s.Unarmed) : s.selectNext.Unarmed := by
  unfold Console.selectNext
  dsimp only
  split
  · exact h.modifyCursor _
  · exact h.modifyCursor _
  · exact h.of_lists rfl rfl rfl
  · exact h.modifyView fun _ _ => rfl

theorem selectPrev (h : s.Unarmed) : s.selectPrev.Unarmed := by
  unfold Console.selectPrev
  split
  · exact h.modifyCursor _
  · exact h.modifyCursor _
  · exact h.of_lists rfl rfl rfl
  · exact h.modifyView fun _ _ => rfl

theorem changeSearch (h : s.Unarmed) (f : String → String) : (s.changeSearch f).Unarmed := by
  have hsearch : (s.modifySearch f).Unarmed := by
    unfold modifySearch
    split
    · exact h.modifyJournal _
    · exact h.modifyView fun _ hv => hv
  unfold Console.changeSearch toFirstRow
  split
  · exact hsearch.modifyJournal _
  · exact hsearch.modifyView fun _ _ => rfl

theorem enterSearch (h : s.Unarmed) : s.enterSearch.Unarmed := by
  unfold Console.enterSearch
  split
  · exact (h.modifyView fun _ _ => rfl).of_lists rfl rfl rfl
  · exact h

theorem cycleMethod (h : s.Unarmed) : s.cycleMethod.Unarmed := by
  unfold Console.cycleMethod
  split
  · exact h.modifyJournal _
  · intro kind
    cases kind with
    | rest => rfl
    | graphQl => exact h .graphQl
    | soap => exact h .soap
  · exact h

theorem changeJournal (h : s.Unarmed) (f : JournalView → JournalView) :
    (s.changeJournal f).Unarmed := by
  unfold Console.changeJournal
  split
  · exact h.modifyJournal f
  · exact h

theorem openEditor (h : s.Unarmed) (editor : Editor) : (s.openEditor editor).Unarmed :=
  (h.modifyView fun _ _ => rfl).of_lists rfl rfl rfl

theorem apply (h : s.Unarmed) (action : Action) : (s.apply action).Unarmed := by
  cases action with
  | goTo page => exact h.goTo page
  | nextPage => exact h.goTo _
  | prevPage => exact h.goTo _
  | selectNext => exact h.selectNext
  | selectPrev => exact h.selectPrev
  | enterSearch => exact h.enterSearch
  | appendSearch text => exact h.changeSearch _
  | backspaceSearch => exact h.changeSearch _
  | clearSearch => exact h.changeSearch _
  | cycleMethod => exact h.cycleMethod
  | cycleStatus => exact h.changeJournal _
  | toggleOrder => exact h.changeJournal _
  | toggleDetails => exact h.changeJournal _
  | openNew =>
      simp only [Console.apply, openNew]
      split
      · exact h.openEditor _
      · exact h
  | openSelected =>
      simp only [Console.apply, openSelected]
      split
      · exact h.openEditor _
      · exact h
  | toggleJson =>
      simp only [Console.apply, toggleJson]
      split
      · exact h
      · split <;> exact h.of_lists rfl rfl rfl
  | openDialog =>
      simp only [Console.apply, openDialog]
      split
      · exact h.of_lists rfl rfl rfl
      · exact h
  -- the other actions do not come near the lists
  | _ => exact h.of_lists rfl rfl rfl

/-! ### Keys that are text, and keys for the editor -/

theorem handleSearchKey (h : s.Unarmed) (key : Key) : (s.handleSearchKey key).Unarmed := by
  unfold Console.handleSearchKey
  split
  · exact h.apply _
  · exact (h.apply _).apply _
  · exact h.apply _
  · split
    · exact h.apply _
    · split
      · exact h.apply _
      · exact h
  · exact h

theorem storeLine (h : s.Unarmed) (text : String) : (s.storeLine text).Unarmed := by
  unfold Console.storeLine
  split <;> exact h.of_lists rfl rfl rfl

theorem handleLineKey (h : s.Unarmed) (key : Key) : (s.handleLineKey key).Unarmed := by
  have hclose : s.closeLine.Unarmed := h.of_lists rfl rfl rfl
  unfold Console.handleLineKey
  split
  · exact h.of_lists rfl rfl rfl
  · split
    · exact hclose
    · exact hclose.storeLine _
    · exact h.of_lists rfl rfl rfl

theorem handleFieldKey (h : s.Unarmed) (key : Key) : (s.handleFieldKey key).Unarmed := by
  unfold Console.handleFieldKey
  split
  · exact h.of_lists rfl rfl rfl
  · split
    · exact h.of_lists rfl rfl rfl
    · split
      · exact h.of_lists rfl rfl rfl
      · split
        · unfold commitField
          split <;> exact h.of_lists rfl rfl rfl
        · exact h.modifyEditor _

theorem handleJsonKey (h : s.Unarmed) (key : Key) : (s.handleJsonKey key).1.Unarmed := by
  unfold Console.handleJsonKey
  split
  · exact h.of_lists rfl rfl rfl
  · split
    · exact h.of_lists rfl rfl rfl
    · split
      · exact h.of_lists rfl rfl rfl
      · split
        · dsimp only [done, formatDocument]
          split
          · exact h
          · split <;> exact h.of_lists rfl rfl rfl
        · dsimp only [done, typeDocument]
          split
          · exact h
          · split
            · exact h
            · exact h.modifyEditor _

theorem startEditing (h : s.Unarmed) : s.startEditing.Unarmed := by
  unfold Console.startEditing
  split
  · exact h
  · split
    · exact h
    · split
      · exact h.of_lists rfl rfl rfl
      · dsimp only
        split <;> exact h.of_lists rfl rfl rfl

theorem handleEditorKey (h : s.Unarmed) (key : Key) : (s.handleEditorKey key).1.Unarmed := by
  have hanswer := paneAnswer_handleEditorKey s key
  generalize s.handleEditorKey key = result at hanswer ⊢
  cases hanswer with
  | act action _ => exact h.apply action
  | edit => exact h.startEditing
  | _ => exact h

theorem handleDialogKey (h : s.Unarmed) (key : Key) : (s.handleDialogKey key).1.Unarmed := by
  unfold Console.handleDialogKey
  split
  · exact h.apply _
  · exact h.apply _
  · exact h.apply _
  · exact h.apply _
  · unfold submitDialog
    split
    · exact h
    · split
      · exact h
      · split
        · exact h
        · exact h.modifyDialog _
  · exact h.modifyDialog _

/-- A page without stubs. -/
theorem handleNormalKey (h : s.Unarmed) (hpage : StubKind.ofPage? s.page = none) (key : Key) :
    (s.handleNormalKey key).1.Unarmed := by
  have hanswer := pageAnswer_handleNormalKey s key
  generalize s.handleNormalKey key = result at hanswer ⊢
  cases hanswer with
  | act action => exact h.apply action
  | line =>
      dsimp only [done, beginLineInput]
      split
      · exact h.of_lists rfl rfl rfl
      · exact h
  | disarm => exact (h.modifyView fun _ _ => rfl).of_lists rfl rfl rfl
  -- a page that takes presses lists stubs
  | press kind _ hkind =>
      rw [StubKind.ofPage?_eq_some.2 hkind] at hpage
      cases hpage
  | quit => exact h.of_lists rfl rfl rfl
  | _ => exact h

end Unarmed

end Console

end StubConsole
