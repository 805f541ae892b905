import StubConsole.Proofs.Cache.OrderedMap
import StubConsole.Proofs.Console.Armed
import StubConsole.View.StubList

/-!
# Cursor — the row that keys are about

A page that lists something shows the rows that pass its filters, and one of them is under the
cursor.  Keys find that row by its place, and the stub on it by its identifier.

* `Console.cursor?`, `Console.CursorInRange` — the place of the cursor, and when it is a row;
* `CursorStep`, `Console.cursorStep_apply` — what an action does to it;
* `Console.hasHighlight` — there is a record under the cursor;
* `Console.ActsOn` — what is drawn, opened, copied and deleted is one stub;
* `Console.cursor_on_row` — all of this together.
-/

namespace StubConsole

/-! ## Lists and rows -/

namespace ListView

/-- The cursor is on a row, or on the first one of none. -/
def InRows (visible selected : Nat) : Prop := selected = 0 ∨ selected < visible

theorem inRows_clampTo (visible selected : Nat) : InRows visible (clampTo visible selected) := by
  unfold InRows clampTo
  omega

theorem inRows_next {visible selected : Nat} (h : InRows visible selected) :
    InRows visible (if selected + 1 < visible then selected + 1 else selected) := by
  split
  next hnext => exact .inr hnext
  next => exact h

theorem inRows_pred {visible selected : Nat} (h : InRows visible selected) :
    InRows visible (selected - 1) := by
  unfold InRows at h ⊢
  omega

/-- The rows depend on the search text and on the method. -/
theorem filter_congr {α : Type} [Listed α] {v w : ListView} (hsearch : w.search = v.search)
    (hmethod : w.method = v.method) (items : List α) : w.filter items = v.filter items := by
  have hmatches : (w.matchesItem : α → Bool) = v.matchesItem := by
    funext item
    simp only [matchesItem, hsearch, hmethod]
  rw [filter, filter, hmatches]

end ListView

/-- The place of a log in the journal is another one, the logs are the same. -/
theorem JournalView.length_shown (v : JournalView) (logs : List RequestLog) :
    (v.shown logs).length = (logs.filter v.matchesLog).length :=
  List.length_mergeSort _

theorem StubKind.listedId_eq_key (kind : StubKind) (item : kind.Item) :
    Listed.id item = Keyed.key item := by
  cases kind <;> rfl

/-- The actions that show another page. -/
def Action.changesPage : Action → Bool
  | .goTo _ | .nextPage | .prevPage => true
  | _ => false

namespace Console

/-! ## The cursor -/

/-- The place of the cursor of the page shown, if it lists something. -/
def cursor? (s : Console) : Option Nat :=
  match s.page with
  | .requests => some s.journal.selected
  | .scenarios => some s.scenarioPage.selected
  | _ => s.view?.map ListView.selected

def CursorInRange (s : Console) : Prop :=
  ∀ i, s.cursor? = some i → ListView.InRows s.visibleCount i

/-- The stubs of a kind that pass the filters. -/
def shownStubs (s : Console) (kind : StubKind) : List kind.Item :=
  (s.viewOf kind).filter (s.cacheOf kind).items

section Pages

variable {s : Console} {kind : StubKind}

theorem cursor?_of_kind (hkind : StubKind.ofPage? s.page = some kind) :
    s.cursor? = some (s.viewOf kind).selected := by
  have hpage : s.page = kind.page := StubKind.ofPage?_eq_some.1 hkind
  cases kind <;> simp [cursor?, view?, hpage, StubKind.page, StubKind.ofPage?]

theorem visibleCount_of_kind (hkind : StubKind.ofPage? s.page = some kind) :
    s.visibleCount = (s.shownStubs kind).length := by
  have hpage : s.page = kind.page := StubKind.ofPage?_eq_some.1 hkind
  cases kind <;> simp [visibleCount, shownStubs, hpage, StubKind.page, StubKind.ofPage?]

theorem visibleCount_of_requests (hpage : s.page = .requests) :
    s.visibleCount = (s.requests.items.filter s.journal.matchesLog).length := by
  simp only [visibleCount, hpage, JournalView.length_shown]

/-- Pages that list nothing have no cursor. -/
theorem cursor?_of_none (hkind : StubKind.ofPage? s.page = none) (hrequests : s.page ≠ .requests)
    (hscenarios : s.page ≠ .scenarios) : s.cursor? = none := by
  unfold cursor?
  split
  next hpage => exact absurd hpage hrequests
  next hpage => exact absurd hpage hscenarios
  next => simp only [view?, hkind, Option.map_none]

theorem visibleCount_of_none (hkind : StubKind.ofPage? s.page = none)
    (hrequests : s.page ≠ .requests) (hscenarios : s.page ≠ .scenarios) : s.visibleCount = 0 := by
  unfold visibleCount
  split
  next hpage => exact absurd hpage hrequests
  next hpage => exact absurd hpage hscenarios
  next => simp only [hkind]

theorem modifyView_of_none (hkind : StubKind.ofPage? s.page = none) (f : ListView → ListView) :
    s.modifyView f = s := by
  unfold modifyView
  rw [hkind]

/-- A change of the list that leaves its filters alone moves the cursor, and the rows stay. -/
theorem cursor?_modifyView (hkind : StubKind.ofPage? s.page = some kind) {f : ListView → ListView}
    {move : Nat → Nat} (hsearch : ∀ v, (f v).search = v.search)
    (hmethod : ∀ v, (f v).method = v.method) (hselected : ∀ v, (f v).selected = move v.selected) :
    (s.modifyView f).cursor? = s.cursor?.map move
      ∧ (s.modifyView f).visibleCount = s.visibleCount := by
  have hfocus := SameFocus.modifyView s f
  have hafter : StubKind.ofPage? (s.modifyView f).page = some kind := by rw [hfocus.page, hkind]
  have hview : (s.modifyView f).viewOf kind = f (s.viewOf kind) := by
    rw [viewOf_modifyView, if_pos hkind]
  have hitems : ((s.modifyView f).cacheOf kind).items = (s.cacheOf kind).items :=
    congrArg Cache.items (hfocus.collection (.stubs kind))
  constructor
  · rw [cursor?_of_kind hafter, cursor?_of_kind hkind, hview, hselected]
    rfl
  · rw [visibleCount_of_kind hafter, visibleCount_of_kind hkind, shownStubs, hview, hitems,
      ListView.filter_congr (hsearch _) (hmethod _)]
    rfl

theorem cursor?_modifyCursor (s : Console) (move : Nat → Nat) :
    (s.modifyCursor move).cursor? = s.cursor?.map move
      ∧ (s.modifyCursor move).visibleCount = s.visibleCount := by
  unfold modifyCursor
  split
  next hpage =>
    have hafter :
        (s.modifyJournal fun v => { v with selected := move v.selected }).page = .requests := hpage
    refine ⟨by simp only [cursor?, hafter, hpage, Option.map_some]; rfl, ?_⟩
    rw [visibleCount_of_requests hafter, visibleCount_of_requests hpage]
    rfl
  next hpage =>
    exact ⟨by simp only [cursor?, hpage, Option.map_some], by simp only [visibleCount, hpage]⟩
  next hrequests hscenarios =>
    cases hkind : StubKind.ofPage? s.page with
    | none =>
        rw [modifyView_of_none hkind, cursor?_of_none hkind hrequests hscenarios]
        exact ⟨rfl, rfl⟩
    | some kind =>
        exact cursor?_modifyView hkind (fun _ => rfl) (fun _ => rfl) fun _ => rfl

theorem cursorInRange_clampSelection (s : Console) : s.clampSelection.CursorInRange := by
  intro i hi
  rcases cursor?_modifyCursor s (ListView.clampTo s.visibleCount) with ⟨hcursor, hcount⟩
  unfold clampSelection at hi ⊢
  rw [hcursor] at hi
  rcases Option.map_eq_some_iff.1 hi with ⟨old, -, rfl⟩
  rw [hcount]
  exact ListView.inRows_clampTo s.visibleCount old

end Pages

/-! ## Steps of the cursor -/

end Console

/-- What an action can do to the cursor: the rows stay and it moves among them, or it goes to the
first row. -/
inductive CursorStep (s t : Console) : Prop where
  | among (move : Nat → Nat) (hcursor : t.cursor? = s.cursor?.map move)
      (hcount : t.visibleCount = s.visibleCount)
      (hmove : ∀ i, ListView.InRows s.visibleCount i → ListView.InRows s.visibleCount (move i)) :
      CursorStep s t
  | first (hcursor : t.cursor? = some 0) : CursorStep s t

namespace CursorStep

open Console

variable {s t u : Console}

theorem inRange (h : CursorStep s t) (hs : s.CursorInRange) : t.CursorInRange := by
  intro i hi
  cases h with
  | among move hcursor hcount hmove =>
      rw [hcursor] at hi
      rcases Option.map_eq_some_iff.1 hi with ⟨old, hold, rfl⟩
      rw [hcount]
      exact hmove old (hs old hold)
  | first hcursor =>
      rw [hcursor] at hi
      exact .inl (Option.some.inj hi).symm

theorem of_eq (hcursor : t.cursor? = s.cursor?) (hcount : t.visibleCount = s.visibleCount) :
    CursorStep s t :=
  .among id (by rw [hcursor, Option.map_id, id]) hcount fun _ h => h

theorem refl (s : Console) : CursorStep s s := of_eq rfl rfl

theorem congr (h : CursorStep s t) (hcursor : u.cursor? = t.cursor?)
    (hcount : u.visibleCount = t.visibleCount) : CursorStep s u := by
  cases h with
  | among move hbefore hsame hmove =>
      exact .among move (hcursor.trans hbefore) (hcount.trans hsame) hmove
  | first hbefore => exact .first (hcursor.trans hbefore)

theorem modifyCursor (s : Console) {move : Nat → Nat}
    (hmove : ∀ i, ListView.InRows s.visibleCount i → ListView.InRows s.visibleCount (move i)) :
    CursorStep s (s.modifyCursor move) :=
  .among move (cursor?_modifyCursor s move).1 (cursor?_modifyCursor s move).2 hmove

/-- On a page without a list of stubs nothing happens. -/
theorem modifyView (s : Console) {f : ListView → ListView} {move : Nat → Nat}
    (hsearch : ∀ v, (f v).search = v.search) (hmethod : ∀ v, (f v).method = v.method)
    (hselected : ∀ v, (f v).selected = move v.selected)
    (hmove : ∀ i, ListView.InRows s.visibleCount i → ListView.InRows s.visibleCount (move i)) :
    CursorStep s (s.modifyView f) := by
  cases hkind : StubKind.ofPage? s.page with
  | none =>
      rw [modifyView_of_none hkind]
      exact refl s
  | some kind =>
      rcases cursor?_modifyView hkind hsearch hmethod hselected with ⟨hcursor, hcount⟩
      exact .among move hcursor hcount hmove

theorem disarm (s : Console) : CursorStep s (s.modifyView ListView.disarm) := by
  have hselected : ∀ v : ListView, v.disarm.selected = id v.selected := fun _ => rfl
  exact modifyView s (fun _ => rfl) (fun _ => rfl) hselected fun _ h => h

/-- The rows are others, and the first of them is under the cursor. -/
theorem toFirst {f : ListView → ListView} (hfirst : ∀ v, (f v).selected = 0) {kind : StubKind}
    (hkind : StubKind.ofPage? s.page = some kind) : CursorStep t (s.modifyView f) := by
  have hafter : StubKind.ofPage? (s.modifyView f).page = some kind := by
    rw [(SameFocus.modifyView s f).page, hkind]
  refine .first ?_
  rw [cursor?_of_kind hafter, viewOf_modifyView, if_pos hkind, hfirst]

theorem changeSearch (s : Console) (f : String → String) : CursorStep s (s.changeSearch f) := by
  unfold Console.changeSearch modifySearch
  -- the journal has filters of its own, and its page is none of the stubs
  by_cases hpage : s.page = .requests
  · rw [if_pos hpage]
    unfold toFirstRow
    rw [if_pos (show (s.modifyJournal _).page = .requests from hpage)]
    refine .first ?_
    have hafter : ((s.modifyJournal fun v => { v with search := f v.search }).modifyJournal
        fun v => { v with selected := 0 }).page = .requests := hpage
    simp only [cursor?, hafter]
    rfl
  · have hfocus := SameFocus.modifyView s fun v => { v with search := f v.search }
    rw [if_neg hpage]
    unfold toFirstRow
    rw [if_neg (by rw [hfocus.page]; exact hpage)]
    cases hkind : StubKind.ofPage? s.page with
    | none =>
        rw [modifyView_of_none hkind, modifyView_of_none hkind]
        exact refl s
    | some kind => exact toFirst (fun _ => rfl) (by rw [hfocus.page, hkind])

theorem selectNext (s : Console) : CursorStep s s.selectNext := by
  have hmove : ∀ i, ListView.InRows s.visibleCount i → ListView.InRows s.visibleCount
      (if i + 1 < s.visibleCount then i + 1 else i) := fun _ => ListView.inRows_next
  unfold Console.selectNext
  dsimp only
  split
  · exact modifyCursor s hmove
  · exact modifyCursor s hmove
  · exact of_eq rfl rfl
  · exact modifyView s (fun _ => rfl) (fun _ => rfl) (fun _ => rfl) hmove

theorem selectPrev (s : Console) : CursorStep s s.selectPrev := by
  have hmove : ∀ i, ListView.InRows s.visibleCount i → ListView.InRows s.visibleCount (i - 1) :=
    fun _ => ListView.inRows_pred
  unfold Console.selectPrev
  split
  · exact modifyCursor s hmove
  · exact modifyCursor s hmove
  · exact of_eq rfl rfl
  · exact modifyView s (fun _ => rfl) (fun _ => rfl) (fun _ => rfl) hmove

theorem cycleMethod (s : Console) : CursorStep s s.cycleMethod := by
  unfold Console.cycleMethod
  split
  next hpage => exact .first (by simp only [cursor?, modifyJournal, hpage]; rfl)
  next hpage => exact .first (by simp only [cursor?, view?, hpage]; rfl)
  next => exact refl s

theorem cycleStatus (s : Console) : CursorStep s (s.changeJournal JournalView.cycleStatus) := by
  unfold Console.changeJournal
  split
  next hpage => exact .first (by simp only [cursor?, modifyJournal, hpage]; rfl)
  next => exact refl s

/-- A change of the journal that leaves its filters and its cursor alone. -/
theorem changeJournal (s : Console) {f : JournalView → JournalView}
    (hfilter : ∀ v, (f v).matchesLog = v.matchesLog)
    (hselected : ∀ v, (f v).selected = v.selected) : CursorStep s (s.changeJournal f) := by
  unfold Console.changeJournal
  split
  next hpage =>
    have hafter : (s.modifyJournal f).page = .requests := hpage
    refine of_eq ?_ ?_
    · simp only [cursor?, hpage, modifyJournal, hselected]
    · rw [visibleCount_of_requests hafter, visibleCount_of_requests hpage]
      simp only [modifyJournal, hfilter]
  next => exact refl s

theorem openNew (s : Console) : CursorStep s s.openNew := by
  unfold Console.openNew
  split
  · exact (disarm s).congr rfl rfl
  · exact refl s

theorem openSelected (s : Console) : CursorStep s s.openSelected := by
  unfold Console.openSelected
  split
  · exact (disarm s).congr rfl rfl
  · exact refl s

theorem enterSearch (s : Console) : CursorStep s s.enterSearch := by
  unfold Console.enterSearch
  split
  · exact (disarm s).congr rfl rfl
  · exact refl s

theorem toggleJson (s : Console) : CursorStep s s.toggleJson := by
  unfold Console.toggleJson
  split
  · exact refl s
  · dsimp only
    split <;> exact of_eq rfl rfl

theorem openDialog (s : Console) : CursorStep s s.openDialog := by
  unfold Console.openDialog
  split
  · exact of_eq rfl rfl
  · exact refl s

end CursorStep

namespace Console

theorem cursorStep_apply (s : Console) {action : Action} (h : action.changesPage = false) :
    CursorStep s (s.apply action) := by
  cases action with
  | goTo page => cases h
  | nextPage => cases h
  | prevPage => cases h
  | selectNext => exact .selectNext s
  | selectPrev => exact .selectPrev s
  | enterSearch => exact .enterSearch s
  | appendSearch text => exact .changeSearch s _
  | backspaceSearch => exact .changeSearch s _
  | clearSearch => exact .changeSearch s _
  | cycleMethod => exact .cycleMethod s
  | cycleStatus => exact .cycleStatus s
  | toggleOrder => exact .changeJournal s (fun _ => rfl) fun _ => rfl
  | toggleDetails => exact .changeJournal s (fun _ => rfl) fun _ => rfl
  | openNew => exact .openNew s
  | openSelected => exact .openSelected s
  | toggleJson => exact .toggleJson s
  | openDialog => exact .openDialog s
  -- all others leave lists and cursors alone
  | _ => exact .of_eq rfl rfl

/-- As long as the page stays, the cursor stays on a row. -/
theorem cursorInRange_actions {s : Console} (h : s.CursorInRange) (actions : List Action)
    (hactions : ∀ action ∈ actions, action.changesPage = false) :
    (actions.foldl apply s).CursorInRange := by
  induction actions generalizing s with
  | nil => exact h
  | cons action rest ih =>
      have hstep := cursorStep_apply s (hactions action List.mem_cons_self)
      exact ih (hstep.inRange h) fun other hother => hactions other (List.mem_cons_of_mem _ hother)

/-! ## The record under the cursor -/

/-- There is a record under the cursor of the page shown. -/
def hasHighlight (s : Console) : Bool :=
  match s.page with
  | .requests => (s.journal.selectedEntry? s.requests.items).isSome
  | .scenarios => s.selectedScenario?.isSome
  | _ => s.selectedId?.isSome

section Highlight

variable {s : Console} {kind : StubKind} {x : kind.Item}

theorem lt_of_inRange (h : s.CursorInRange) (hrows : 0 < s.visibleCount) {i : Nat}
    (hi : s.cursor? = some i) : i < s.visibleCount := by
  rcases h i hi with hzero | hlt
  · rw [hzero]
    exact hrows
  · exact hlt

theorem selectedId?_of_shown (hpage : s.page = kind.page)
    (hx : (s.shownStubs kind)[(s.viewOf kind).selected]? = some x) :
    s.selectedId? = some (Listed.id x) := by
  have hstub : s.selectedStub? kind = some x := hx
  unfold selectedId?
  rw [StubKind.ofPage?_eq_some.2 hpage]
  simp only [Option.bind_eq_bind, Option.bind_some, hstub]
  rfl

theorem hasHighlight_of_inRange (h : s.CursorInRange) (hrows : 0 < s.visibleCount) :
    s.hasHighlight = true := by
  unfold hasHighlight
  split
  next hpage =>
    have hi := lt_of_inRange h hrows (show s.cursor? = some s.journal.selected by
      simp only [cursor?, hpage])
    simp only [visibleCount, hpage] at hi
    rw [JournalView.selectedEntry?, List.getElem?_eq_getElem hi]
    rfl
  next hpage =>
    have hi := lt_of_inRange h hrows (show s.cursor? = some s.scenarioPage.selected by
      simp only [cursor?, hpage])
    simp only [visibleCount, hpage] at hi
    rw [selectedScenario?, List.getElem?_eq_getElem hi]
    rfl
  next hrequests hscenarios =>
    cases hkind : StubKind.ofPage? s.page with
    | none =>
        -- a page that lists nothing has no rows
        rw [visibleCount_of_none hkind hrequests hscenarios] at hrows
        exact absurd hrows (Nat.lt_irrefl 0)
    | some kind =>
        have hi := lt_of_inRange h hrows (cursor?_of_kind hkind)
        rw [visibleCount_of_kind hkind] at hi
        rw [selectedId?_of_shown (StubKind.ofPage?_eq_some.1 hkind) (List.getElem?_eq_getElem hi)]
        rfl

end Highlight

/-- What is drawn under the cursor of the list of a kind, opened, copied and deleted from there is
one stub. -/
structure ActsOn (s : Console) (kind : StubKind) (x : kind.Item) : Prop where
  drawn : ∃ title, ∀ turn, View.stubRows kind s turn = View.page title
    (Listing.withCursor ((s.shownStubs kind).map (View.stubEntry kind (s.viewOf kind).confirm))
      (s.viewOf kind).selected)
  opened : (s.apply .openSelected).editor = .opened (.opened kind x)
  printed : s.selectedJson? = some (Record.writePretty x)
  /-- The key that deletes arms it, and deletes it if it is armed. -/
  pressed : ∀ key : Key, key.code = .char 'd' → s.mode = .normal → s.editor.isOpen = false →
    if s.armed? kind = some (Listed.id x) then
      (s.handleKey key).2 = some (.delete kind (Listed.id x))
    else (s.handleKey key).2 = none ∧ (s.handleKey key).1.armed? kind = some (Listed.id x)

section Record

variable {s : Console} {kind : StubKind} {x : kind.Item}

/-- The row under the cursor is a record of the collection, and its identifier leads back to it. -/
theorem get?_of_shown (hdistinct : ((s.cacheOf kind).items.map Keyed.key).Nodup)
    (hx : (s.shownStubs kind)[(s.viewOf kind).selected]? = some x) :
    (s.cacheOf kind).get? (Listed.id x) = some x := by
  have hmem : x ∈ (s.cacheOf kind).items := List.mem_of_mem_filter (List.mem_of_getElem? hx)
  rw [StubKind.listedId_eq_key]
  exact Cache.get?_of_distinct hdistinct hmem

/-- A list that shows a row shows its rows, and no placeholder. -/
theorem stubRows_of_shown {i : Nat} (hx : (s.shownStubs kind)[i]? = some x) :
    ∃ title, ∀ turn, View.stubRows kind s turn = View.page title
      (Listing.withCursor ((s.shownStubs kind).map (View.stubEntry kind (s.viewOf kind).confirm))
        (s.viewOf kind).selected) := by
  have hshown : ((s.viewOf kind).filter (s.cacheOf kind).items).isEmpty = false :=
    List.isEmpty_eq_false_iff_exists_mem.2 ⟨x, List.mem_of_getElem? hx⟩
  have hitems : (s.cacheOf kind).items.isEmpty = false :=
    List.isEmpty_eq_false_iff_exists_mem.2
      ⟨x, List.mem_of_mem_filter (List.mem_of_getElem? hx)⟩
  simp only [View.stubRows, hitems, hshown, Bool.and_false, Bool.false_eq_true, if_false]
  exact ⟨_, fun _ => rfl⟩

theorem handleKey_delete (hpage : s.page = kind.page) {key : Key} (hkey : key.code = .char 'd')
    (hmode : s.mode = .normal) (hclosed : s.editor.isOpen = false) :
    s.handleKey key = s.pressDelete kind := by
  have hlist : s.handlePageKey key = s.pressDelete kind := by
    cases kind <;> simp only [handlePageKey, hkey, hpage, StubKind.page, handleStubsKey] <;> rfl
  have hdigit : Page.ofDigit? 'd' = none := by decide
  have hnormal : s.handleNormalKey key = s.handlePageKey key := by
    simp [handleNormalKey, hkey, hdigit]
  simp only [handleKey, hmode, hclosed, Bool.false_eq_true, if_false, hnormal, hlist]

theorem actsOn_of_shown (hpage : s.page = kind.page)
    (hdistinct : ((s.cacheOf kind).items.map Keyed.key).Nodup)
    (hx : (s.shownStubs kind)[(s.viewOf kind).selected]? = some x) : s.ActsOn kind x := by
  have hkind : StubKind.ofPage? s.page = some kind := StubKind.ofPage?_eq_some.2 hpage
  have hid : s.selectedId? = some (Listed.id x) := selectedId?_of_shown hpage hx
  have hget : (s.cacheOf kind).get? (Listed.id x) = some x := get?_of_shown hdistinct hx
  refine ⟨stubRows_of_shown hx, ?_, ?_, ?_⟩
  · have heditor : s.selectedEditor? = some (.opened kind x) := by
      simp only [selectedEditor?, hkind, hid, hget, Option.bind_eq_bind, Option.bind_some]
      rfl
    simp only [apply, openSelected, heditor, openEditor]
  · simp only [selectedJson?, hkind, hid, hget, Option.bind_eq_bind, Option.bind_some]
    rfl
  · intro key hkey hmode hclosed
    rw [handleKey_delete hpage hkey hmode hclosed]
    unfold pressDelete
    rw [hid]
    dsimp only
    split
    next harmed =>
      rw [DeleteConfirm.press_of_armed harmed]
      rfl
    next harmed =>
      rw [DeleteConfirm.press_of_ne harmed]
      have hnotice := Elsewhere.notify
        (s.modifyView fun v => { v with confirm := ⟨some (Listed.id x)⟩ })
        (.info "Press d again to delete")
      refine ⟨rfl, (armed?_congr hnotice.viewOf kind).trans ?_⟩
      rw [armed?, viewOf_modifyView, if_pos hkind]

end Record

/-- The cursor stays on a row, and keys act on that row.  A redraw brings the cursor to a row and no
action on the page takes it off; where there are rows one of them is under the cursor; and if
identifiers are distinct, it is the one that is opened, copied and deleted. -/
theorem cursor_on_row (s : Console) :
    s.clampSelection.CursorInRange
      ∧ (∀ actions : List Action, (∀ action ∈ actions, action.changesPage = false) →
          s.CursorInRange → let t := actions.foldl apply s
            t.CursorInRange ∧ (0 < t.visibleCount → t.hasHighlight = true))
      ∧ ∀ (kind : StubKind) (x : kind.Item), s.page = kind.page →
          ((s.cacheOf kind).items.map Keyed.key).Nodup →
          (s.shownStubs kind)[(s.viewOf kind).selected]? = some x → s.ActsOn kind x := by
  refine ⟨cursorInRange_clampSelection s, ?_, fun kind x => actsOn_of_shown⟩
  intro actions hactions hs t
  -- filters, searches and moves are actions like the others: the range is kept through all of them
  have ht : t.CursorInRange := cursorInRange_actions hs actions hactions
  exact ⟨ht, hasHighlight_of_inRange ht⟩

/-- A list of two stubs, searched for the second one. -/
def searchedList : Console :=
  { initial with
    page := .stubs
    stubs.items :=
      [{ Stub.fresh with id := "1", name := "users" },
        { Stub.fresh with id := "2", name := "orders" }]
    stubList.search := "ord" }

/-- The first row shown is the second stub. -/
theorem cursor_on_row_searchedList :
    ([.selectNext, .clearSearch, .selectNext].foldl apply searchedList).hasHighlight = true
      ∧ searchedList.ActsOn .rest { Stub.fresh with id := "2", name := "orders" } := by
  have hrow := cursor_on_row searchedList
  have hrange : searchedList.CursorInRange := by
    intro i hi
    exact .inl (Option.some.inj hi).symm
  exact ⟨(hrow.2.1 _ (by decide) hrange).2 (by decide +kernel),
    hrow.2.2 .rest _ rfl (by decide) (by decide +kernel)⟩

end Console

end StubConsole
