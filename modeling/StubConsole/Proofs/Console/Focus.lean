import StubConsole.Console.Keys

/-!
# Focus — changes of views and rows

Most keys of a page move its cursor or change what its list shows.  None of this concerns what is
open, what keys are taken for, or what was fetched.

* `Console.SameFocus` — all of this is as it was;
* `Console.SameFocus.modifyView` and the lemmas after it — the changes that leave it so;
* `Console.SameFocus.handleSearchKey`, `Console.SameFocus.handleLineKey` — keys that are text, which
  leave most of it so.
-/

namespace StubConsole

namespace Console

/-- Nothing changes that keys could be taken for, nor what was fetched. -/
structure SameFocus (s t : Console) : Prop where
  page : t.page = s.page
  mode : t.mode = s.mode
  lineInput : t.lineInput = s.lineInput
  dialog : t.scenarioPage.dialog = s.scenarioPage.dialog
  editor : t.editor = s.editor
  quit : t.quit = s.quit
  collection : ∀ c, t.collection c = s.collection c

namespace SameFocus

variable {s t u : Console}

theorem refl (s : Console) : SameFocus s s := ⟨rfl, rfl, rfl, rfl, rfl, rfl, fun _ => rfl⟩

theorem trans (h : SameFocus s t) (h' : SameFocus t u) : SameFocus s u where
  page := h'.page.trans h.page
  mode := h'.mode.trans h.mode
  lineInput := h'.lineInput.trans h.lineInput
  dialog := h'.dialog.trans h.dialog
  editor := h'.editor.trans h.editor
  quit := h'.quit.trans h.quit
  collection := fun c => (h'.collection c).trans (h.collection c)

theorem modifyView (s : Console) (f : ListView → ListView) : SameFocus s (s.modifyView f) := by
  unfold Console.modifyView
  split <;> exact ⟨rfl, rfl, rfl, rfl, rfl, rfl, fun _ => rfl⟩

theorem modifyJournal (s : Console) (f : JournalView → JournalView) :
    SameFocus s (s.modifyJournal f) :=
  ⟨rfl, rfl, rfl, rfl, rfl, rfl, fun _ => rfl⟩

theorem modifyCursor (s : Console) (f : Nat → Nat) : SameFocus s (s.modifyCursor f) := by
  unfold Console.modifyCursor
  split
  · exact modifyJournal ..
  · exact ⟨rfl, rfl, rfl, rfl, rfl, rfl, fun _ => rfl⟩
  · exact modifyView ..

theorem changeSearch (s : Console) (f : String → String) : SameFocus s (s.changeSearch f) := by
  have htyped : SameFocus s (s.modifySearch f) := by
    unfold modifySearch
    split
    · exact modifyJournal ..
    · exact modifyView ..
  unfold Console.changeSearch toFirstRow
  split
  · exact htyped.trans (modifyJournal ..)
  · exact htyped.trans (modifyView ..)

theorem selectNext (s : Console) : SameFocus s s.selectNext := by
  unfold Console.selectNext
  dsimp only
  split
  · exact modifyCursor ..
  · exact modifyCursor ..
  · exact ⟨rfl, rfl, rfl, rfl, rfl, rfl, fun _ => rfl⟩
  · exact modifyView ..

theorem selectPrev (s : Console) : SameFocus s s.selectPrev := by
  unfold Console.selectPrev
  split
  · exact modifyCursor ..
  · exact modifyCursor ..
  · exact ⟨rfl, rfl, rfl, rfl, rfl, rfl, fun _ => rfl⟩
  · exact modifyView ..

theorem cycleMethod (s : Console) : SameFocus s s.cycleMethod := by
  unfold Console.cycleMethod
  split
  · exact modifyJournal ..
  · exact ⟨rfl, rfl, rfl, rfl, rfl, rfl, fun _ => rfl⟩
  · exact refl s

theorem changeJournal (s : Console) (f : JournalView → JournalView) :
    SameFocus s (s.changeJournal f) := by
  unfold Console.changeJournal
  split
  · exact modifyJournal ..
  · exact refl s

theorem storeLine (s : Console) (text : String) : SameFocus s (s.storeLine text) := by
  unfold Console.storeLine
  split
  · exact ⟨rfl, rfl, rfl, rfl, rfl, rfl, fun _ => rfl⟩
  · exact ⟨rfl, rfl, rfl, rfl, rfl, rfl, fun _ => rfl⟩
  · exact ⟨rfl, rfl, rfl, rfl, rfl, rfl, fun _ => rfl⟩
  · exact refl s

/-! ### Keys that are text -/

/-- Text for the search box changes views, and keys may be for the page afterwards. -/
theorem handleSearchKey (s : Console) (key : Key) :
    ∃ mode, SameFocus { s with mode } (s.handleSearchKey key) := by
  unfold Console.handleSearchKey
  split
  · exact ⟨.normal, refl _⟩
  · have hcleared := changeSearch s fun _ => ""
    exact ⟨.normal, hcleared.page, rfl, hcleared.lineInput, hcleared.dialog, hcleared.editor,
      hcleared.quit, hcleared.collection⟩
  · exact ⟨s.mode, changeSearch s _⟩
  · split
    · exact ⟨s.mode, changeSearch s _⟩
    · split
      · exact ⟨s.mode, changeSearch s _⟩
      · exact ⟨s.mode, refl s⟩
  · exact ⟨s.mode, refl s⟩

/-- Text for the field of the page stays there, until it is stored or dropped. -/
theorem handleLineKey (s : Console) (key : Key) :
    ∃ mode lineInput, SameFocus { s with mode, lineInput } (s.handleLineKey key) := by
  unfold Console.handleLineKey
  split
  · exact ⟨.normal, s.lineInput, refl _⟩
  · split
    · exact ⟨.normal, none, refl _⟩
    · exact ⟨.normal, none, storeLine s.closeLine _⟩
    · exact ⟨s.mode, some _, refl _⟩

end SameFocus

end Console

end StubConsole
