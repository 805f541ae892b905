import Mathlib.Data.List.Induction
import StubConsole.Proofs.Console.Armed

/-!
# TwoPresses — what is deleted was armed before

A stub is deleted by the second of two presses on its row.  Whatever moves the cursor, changes the
rows or leaves the page in between takes the first press back, whatever else arrives meanwhile.

* `Console.OnRow`, `Console.Passes` — keys that press a row, and keys that leave it armed;
* `Console.handleKey_cases` — the three things that a key can do to armed rows;
* `Console.ArmedBefore` — the run from the first press on;
* `Console.delete_after_run` — the run before a deletion.
-/

namespace StubConsole

/-! ## Keys on a list -/

/-- The keys that take a press back by themselves: they move the cursor, leave the page or the
list, or drop the press. -/
def leavingCodes : List KeyCode :=
  [.down, .up, .char 'j', .char 'k', .escape, .char '/', .tab, .backTab]

/-- The key is none of these, and no digit of a page. -/
structure Key.Stays (key : Key) : Prop where
  code : key.code ∉ leavingCodes
  digit : ∀ c, key.code = .char c → Page.ofDigit? c = none

theorem Key.stays_of_letter {key : Key} {c : Char} (hcode : key.code = .char c)
    (h : c ∈ ['q', 'c', 'r', 'd']) : key.Stays := by
  have hletter : KeyCode.char c ∉ leavingCodes ∧ Page.ofDigit? c = none := by
    simp only [List.mem_cons, List.not_mem_nil, or_false] at h
    rcases h with rfl | rfl | rfl | rfl <;> decide
  refine ⟨by rw [hcode]; exact hletter.1, ?_⟩
  intro other hother
  rw [hcode] at hother
  cases hother
  exact hletter.2

namespace Console

/-- The key is a `d` on the row of a stub. -/
structure OnRow (s : Console) (key : Key) (kind : StubKind) (id : String) : Prop where
  code : key.code = .char 'd'
  mode : s.mode = .normal
  closed : s.editor.isOpen = false
  page : s.page = kind.page
  selected : s.selectedId? = some id

/-- The key leaves the lists as they are, with their cursors, search texts and filters, stays on
the page and opens nothing. -/
structure Passes (s : Console) (key : Key) : Prop where
  stays : key.Stays
  undisturbed : Undisturbed s (s.handleKey key).1

/-! ## One key -/

section OneKey

variable {s t : Console} {kind : StubKind} {id : String}

theorem ArmedOn.undisturbed (h : s.ArmedOn kind id) (hrest : Undisturbed s t) :
    t.ArmedOn kind id where
  only := by
    intro other
    rw [armed?_congr hrest.viewOf other]
    exact h.only other
  page := hrest.page.trans h.page
  mode := by
    rcases hrest.mode with hmode | hmode
    · exact hmode.trans h.mode
    · exact hmode
  closed := by
    refine Bool.eq_false_iff.2 ?_
    intro hopen
    have hclosed := h.closed
    rw [hrest.isOpen hopen] at hclosed
    cases hclosed

theorem ArmedOn.clamp (h : s.ArmedOn kind id) : s.clampSelection.ArmedOn kind id where
  only := by
    intro other
    exact (armed?_modifyCursor ..).trans (h.only other)
  page := (SameFocus.modifyCursor s _).page.trans h.page
  mode := (SameFocus.modifyCursor s _).mode.trans h.mode
  closed := by
    unfold clampSelection
    rw [(SameFocus.modifyCursor s _).editor]
    exact h.closed

theorem ArmedInSight.openSelected (h : s.ArmedInSight) :
    s.openSelected.Unarmed ∨ s.openSelected = s := by
  unfold Console.openSelected
  split
  next editor _ =>
    have hdisarm : (s.modifyView ListView.disarm).Unarmed := h.modifyView fun _ => rfl
    exact .inl (hdisarm.of_lists rfl rfl rfl)
  next => exact .inr rfl

/-- Only the list of REST stubs has a filter by method. -/
theorem ArmedInSight.cycleMethod (h : s.ArmedInSight) (hpage : s.page = kind.page) :
    s.cycleMethod.Unarmed ∨ s.cycleMethod = s := by
  -- the page decides which of the views the filter is in
  cases kind with
  | rest =>
      have hview : s.cycleMethod = s.modifyView ListView.cycleMethod := by
        simp only [Console.cycleMethod, Console.modifyView, hpage, StubKind.page,
          StubKind.ofPage?]
      rw [hview]
      exact .inl (h.modifyView fun _ => rfl)
  | graphQl =>
      refine .inr ?_
      simp only [Console.cycleMethod, hpage, StubKind.page]
  | soap =>
      refine .inr ?_
      simp only [Console.cycleMethod, hpage, StubKind.page]

/-- Keys on a page that lists stubs. -/
theorem handleStubsKey_cases (h : s.ArmedInSight) (hpage : s.page = kind.page) (key : Key) :
    (s.handleStubsKey kind key).1.Unarmed
      ∨ key.code ≠ .escape ∧ key.code ≠ .char '/' ∧ Undisturbed s (s.handleStubsKey kind key).1
      ∨ key.code = .char 'd' ∧ s.handleStubsKey kind key = s.pressDelete kind := by
  have hkind : StubKind.ofPage? s.page = some kind := StubKind.ofPage?_eq_some.2 hpage
  have hdisarm : (s.modifyView ListView.disarm).Unarmed := h.modifyView fun _ => rfl
  have hsame : ∀ t, t = s → Undisturbed s t := by
    intro t ht
    rw [ht]
    exact .refl s
  unfold handleStubsKey
  split
  next hcode =>
    rcases h.openSelected with hunarmed | heq
    · exact .inl hunarmed
    · exact .inr (.inl ⟨by rw [hcode]; decide, by rw [hcode]; decide, hsame _ heq⟩)
  next => exact .inl (hdisarm.of_lists rfl rfl rfl)
  next =>
    have hsearch : s.hasSearch = true := by simp [hasSearch, view?, hkind]
    refine .inl ?_
    simp only [act, done, Console.apply, enterSearch, hsearch, if_true]
    exact hdisarm.of_lists rfl rfl rfl
  next hcode =>
    rcases h.cycleMethod hpage with hunarmed | heq
    · exact .inl hunarmed
    · exact .inr (.inl ⟨by rw [hcode]; decide, by rw [hcode]; decide, hsame _ heq⟩)
  next =>
    refine .inl ?_
    simp only [act, done, Console.apply, openNew, hkind]
    exact hdisarm.of_lists rfl rfl rfl
  next hcode =>
    rcases h.openSelected with hunarmed | heq
    · exact .inl hunarmed
    · exact .inr (.inl ⟨by rw [hcode]; decide, by rw [hcode]; decide, hsame _ heq⟩)
  next hcode =>
    refine .inr (.inl ⟨by rw [hcode]; decide, by rw [hcode]; decide, hsame _ ?_⟩)
    unfold copyStub
    split <;> rfl
  next hcode => exact .inr (.inr ⟨hcode, rfl⟩)
  next hescape hsearch _ _ _ _ _ => exact .inr (.inl ⟨hescape, hsearch, .refl s⟩)

/-- Moving the cursor in a list of stubs disarms it. -/
theorem ArmedInSight.move (h : s.ArmedInSight) (hpage : s.page = kind.page) :
    s.selectNext.Unarmed ∧ s.selectPrev.Unarmed := by
  cases kind <;>
    simp only [selectNext, selectPrev, hpage, StubKind.page] <;>
    exact ⟨h.modifyView fun _ => rfl, h.modifyView fun _ => rfl⟩

theorem ArmedInSight.goTo (h : s.ArmedInSight) (page : Page) : (s.goTo page).Unarmed := by
  have hdisarm : (s.modifyView ListView.disarm).Unarmed := h.modifyView fun _ => rfl
  exact hdisarm.of_lists rfl rfl rfl

/-- Keys of a page with stubs, those included that all pages share. -/
theorem handlePageKey_cases (h : s.ArmedInSight) (hpage : s.page = kind.page) {key : Key}
    (htab : key.code ≠ .tab ∧ key.code ≠ .backTab)
    (hdigit : ∀ c, key.code = .char c → Page.ofDigit? c = none) :
    (s.handlePageKey key).1.Unarmed
      ∨ key.Stays ∧ Undisturbed s (s.handlePageKey key).1
      ∨ key.code = .char 'd' ∧ s.handlePageKey key = s.pressDelete kind := by
  unfold handlePageKey
  split
  -- the cursor moves: down with an arrow or a letter, up with an arrow or a letter
  next => exact .inl (h.move hpage).1
  next => exact .inl (h.move hpage).1
  next => exact .inl (h.move hpage).2
  next => exact .inl (h.move hpage).2
  next hdown hj hup hk =>
    have hlist : ∀ result, result = s.handleStubsKey kind key → result.1.Unarmed
        ∨ key.Stays ∧ Undisturbed s result.1
        ∨ key.code = .char 'd' ∧ result = s.pressDelete kind := by
      intro result hresult
      rw [hresult]
      rcases handleStubsKey_cases h hpage key with hunarmed | ⟨hescape, hsearch, hrest⟩ | hpress
      · exact .inl hunarmed
      · refine .inr (.inl ⟨⟨?_, hdigit⟩, hrest⟩)
        -- one by one, in the order of the list
        simp only [leavingCodes, List.mem_cons, List.not_mem_nil, or_false, not_or]
        exact ⟨hdown, hup, hj, hk, hescape, hsearch, htab⟩
      · exact .inr (.inr hpress)
    refine hlist _ ?_
    cases kind <;> simp only [hpage, StubKind.page]

/-- A press of `d` either confirms, or arms the row under the cursor, or finds no row. -/
theorem pressDelete_cases (h : s.ArmedInSight) (hmode : s.mode = .normal)
    (hclosed : s.editor.isOpen = false) (hpage : s.page = kind.page) :
    (s.pressDelete kind).1.Unarmed ∨ Undisturbed s (s.pressDelete kind).1
      ∨ ∃ id, s.selectedId? = some id ∧ (s.pressDelete kind).2 = none
          ∧ (s.pressDelete kind).1.ArmedOn kind id := by
  have hkind : StubKind.ofPage? s.page = some kind := StubKind.ofPage?_eq_some.2 hpage
  unfold pressDelete
  split
  next => exact .inr (.inl (.refl s))
  next id hselected =>
    -- the second press disarms as it deletes, a first one arms
    by_cases harmed : (s.viewOf kind).confirm.armed = some id
    · rw [DeleteConfirm.press_of_armed harmed]
      have hdisarm : (s.modifyView fun v => { v with confirm := .disarmed }).Unarmed :=
        h.modifyView fun _ => rfl
      exact .inl (hdisarm.of_lists rfl rfl rfl)
    · rw [DeleteConfirm.press_of_ne harmed]
      refine .inr (.inr ⟨id, hselected, rfl, ?_⟩)
      have hnotice := Elsewhere.notify (s.modifyView fun v => { v with confirm := ⟨some id⟩ })
        (.info "Press d again to delete")
      refine ArmedOn.undisturbed ⟨?_, ?_, ?_, ?_⟩ hnotice.undisturbed
      · intro other
        unfold armed?
        rw [viewOf_modifyView, hkind]
        by_cases hother : other = kind
        · rw [if_pos (by rw [hother]), if_pos hother]
        · rw [if_neg (by simpa [eq_comm] using hother), if_neg hother]
          -- a list that is not shown has nothing armed
          cases hleft : s.armed? other with
          | none => exact hleft
          | some left => exact absurd (h.eq_of_page hleft hpage) hother
      · exact (SameFocus.modifyView s _).page.trans hpage
      · exact (SameFocus.modifyView s _).mode.trans hmode
      · rw [(SameFocus.modifyView s _).editor]
        exact hclosed

/-- Keys on a page. -/
theorem handleNormalKey_cases (h : s.ArmedInSight) (key : Key) :
    (s.handleNormalKey key).1.Unarmed
      ∨ key.Stays ∧ Undisturbed s (s.handleNormalKey key).1
      ∨ ∃ kind : StubKind, key.code = .char 'd' ∧ s.page = kind.page
          ∧ s.handleNormalKey key = s.pressDelete kind := by
  cases hkind : StubKind.ofPage? s.page with
  | none => exact .inl ((h.unarmed_of_page hkind).handleNormalKey hkind key)
  | some kind =>
      have hpage : s.page = kind.page := StubKind.ofPage?_eq_some.1 hkind
      unfold handleNormalKey
      split
      next => exact .inl (h.goTo _)
      next => exact .inl (h.goTo _)
      next c hcode =>
        have hsame : ∀ other, key.code = .char other → other = c := by
          intro other hother
          rw [hcode] at hother
          exact (KeyCode.char.inj hother).symm
        split
        next hquit =>
          -- leaving takes a letter of its own and leaves the lists as they are
          have hletter : c = 'q' ∨ c = 'c' := by
            simp only [Bool.or_eq_true, Bool.and_eq_true, decide_eq_true_eq] at hquit
            exact hquit.imp_right (·.2)
          have hquits : Elsewhere s { s with quit := true } :=
            .of_rest rfl rfl rfl rfl rfl rfl rfl rfl
          refine .inr (.inl ⟨Key.stays_of_letter hcode ?_, hquits.undisturbed⟩)
          rcases hletter with rfl | rfl <;> decide
        next =>
          split
          next hrefresh =>
            have hletter : c = 'r' := by
              simp only [Bool.and_eq_true, decide_eq_true_eq] at hrefresh
              exact hrefresh.2
            refine .inr (.inl ⟨Key.stays_of_letter hcode ?_, .refl s⟩)
            rw [hletter]
            decide
          next =>
            split
            next page _ => exact .inl (h.goTo page)
            next hdigit =>
              have htab : key.code ≠ .tab ∧ key.code ≠ .backTab := by
                rw [hcode]
                exact ⟨nofun, nofun⟩
              refine (handlePageKey_cases h hpage htab ?_).imp_right (.imp_right fun hpress => ?_)
              · exact fun other hother => hsame other hother ▸ hdigit
              · exact ⟨kind, hpress.1, hpage, hpress.2⟩
      next htab hbackTab hchar =>
        refine (handlePageKey_cases h hpage ⟨htab, hbackTab⟩ ?_).imp_right
          (.imp_right fun hpress => ?_)
        · exact fun c hcode => absurd hcode (hchar c)
        · exact ⟨kind, hpress.1, hpage, hpress.2⟩

theorem handleKey_of_normal (hmode : s.mode = .normal) (hclosed : s.editor.isOpen = false)
    (key : Key) : s.handleKey key = s.handleNormalKey key := by
  simp only [handleKey, hmode, hclosed, Bool.false_eq_true, if_false]

/-- With nothing armed, only a page of stubs under plain keys can change that. -/
theorem Unarmed.handleKey (h : s.Unarmed) (key : Key)
    (hother : ¬(s.mode = .normal ∧ s.editor.isOpen = false)) : (s.handleKey key).1.Unarmed := by
  unfold Console.handleKey
  split
  next => exact h.handleSearchKey key
  next =>
    split
    · exact h.handleFieldKey key
    · exact h.handleLineKey key
  next => exact h.handleJsonKey key
  next => exact h.handleDialogKey key
  next hmode =>
    split
    · exact h.handleEditorKey key
    next hopen => exact absurd ⟨hmode, Bool.eq_false_iff.2 hopen⟩ hother

/-- After a key nothing is armed, or what was armed before, or the row that the key pressed. -/
theorem handleKey_cases (h : s.ArmedInSight) (key : Key) :
    (s.handleKey key).1.Unarmed ∨ s.Passes key
      ∨ ∃ kind id, s.OnRow key kind id ∧ (s.handleKey key).2 = none
          ∧ (s.handleKey key).1.ArmedOn kind id := by
  -- under an editor or a text field nothing is armed to begin with
  by_cases hnormal : s.mode = .normal ∧ s.editor.isOpen = false
  · rcases hnormal with ⟨hmode, hclosed⟩
    have hkey := handleKey_of_normal hmode hclosed key
    rcases handleNormalKey_cases h key with
      hunarmed | ⟨hstays, hrest⟩ | ⟨kind, hcode, hpage, hpress⟩
    · rw [hkey]
      exact .inl hunarmed
    · refine .inr (.inl ⟨hstays, ?_⟩)
      rw [hkey]
      exact hrest
    · rcases pressDelete_cases h hmode hclosed hpage with
        hunarmed | hrest | ⟨id, hselected, hnone, harmed⟩
      · rw [hkey, hpress]
        exact .inl hunarmed
      · refine .inr (.inl ⟨Key.stays_of_letter hcode (by decide), ?_⟩)
        rw [hkey, hpress]
        exact hrest
      · rw [hkey, hpress]
        exact .inr (.inr ⟨kind, id, ⟨hcode, hmode, hclosed, hpage, hselected⟩, hnone, harmed⟩)
  · have hunarmed : s.Unarmed := h.unarmed fun _ _ hon => hnormal ⟨hon.mode, hon.closed⟩
    exact .inl (hunarmed.handleKey key hnormal)

/-- Only the second press asks for a deletion. -/
theorem onRow_of_delete {key : Key} (h : (s.handleKey key).2 = some (.delete kind id)) :
    s.OnRow key kind id ∧ s.armed? kind = some id := by
  unfold handleKey at h
  split at h
  -- keys for texts, documents and dialogs ask for other things
  next => cases h
  next => split at h <;> cases h
  next =>
    unfold handleJsonKey at h
    repeat' split at h
    all_goals cases h
  next =>
    unfold handleDialogKey at h
    split at h
    case h_5 =>
      unfold submitDialog at h
      repeat' split at h
      all_goals cases h
    all_goals cases h
  next hmode =>
    split at h
    next =>
      have hanswer := paneAnswer_handleEditorKey s key
      generalize s.handleEditorKey key = result at hanswer h
      cases hanswer <;> cases h
    next hopen =>
      have hanswer := pageAnswer_handleNormalKey s key
      generalize s.handleNormalKey key = result at hanswer h
      cases hanswer with
      -- commands that are asked for at once are no deletions
      | ask command hcommand => exact absurd (Option.some.inj h) (hcommand kind id)
      | press other hcode hpage =>
          unfold pressDelete at h
          split at h
          next => cases h
          next row hselected =>
            by_cases harmed : (s.viewOf other).confirm.armed = some row
            · rw [DeleteConfirm.press_of_armed harmed] at h
              cases h
              exact ⟨⟨hcode, hmode, Bool.eq_false_iff.2 hopen, hpage, hselected⟩, harmed⟩
            · rw [DeleteConfirm.press_of_ne harmed] at h
              cases h
      | _ => cases h

end OneKey

/-! ## Runs -/

/-- The stub stays the armed one all along a run, and each key of the run passes. -/
def StaysArmed (kind : StubKind) (id : String) : Console → List ConsoleStep → Prop
  | s, [] => s.ArmedOn kind id
  | s, step :: rest =>
      s.ArmedOn kind id ∧ (∀ key, step = .press key → s.Passes key)
        ∧ StaysArmed kind id (s.after step) rest

/-- The stub was armed by a press on its row, which asked for nothing, and has stayed armed. -/
def ArmedBefore (s : Console) (steps : List ConsoleStep) (kind : StubKind) (id : String) : Prop :=
  ∃ before first between, steps = before ++ .press first :: between
    ∧ (s.run before).OnRow first kind id
    ∧ ((s.run before).handleKey first).2 = none
    ∧ StaysArmed kind id ((s.run before).after (.press first)) between

section Run

variable {s : Console} {kind : StubKind} {id : String}

theorem StaysArmed.concat {steps : List ConsoleStep} {step : ConsoleStep}
    (h : StaysArmed kind id s steps) (hpasses : ∀ key, step = .press key → (s.run steps).Passes key)
    (harmed : ((s.run steps).after step).ArmedOn kind id) :
    StaysArmed kind id s (steps ++ [step]) := by
  induction steps generalizing s with
  | nil => exact ⟨h, hpasses, harmed⟩
  | cons first steps ih => exact ⟨h.1, h.2.1, ih h.2.2 hpasses harmed⟩

theorem ArmedOn.eq_of_armed (h : s.ArmedOn kind id) {other : StubKind} {row : String}
    (harmed : s.armed? other = some row) : other = kind ∧ row = id := by
  rw [h.only other] at harmed
  split at harmed
  next hkind =>
    cases harmed
    exact ⟨hkind, rfl⟩
  next => cases harmed

/-- What is armed after an event was armed before, or is the row that a key pressed. -/
theorem armed_after (h : s.ArmedInSight) (step : ConsoleStep)
    (harmed : (s.after step).armed? kind = some id) :
    (s.after step).ArmedOn kind id
      ∧ (s.armed? kind = some id ∧ (∀ key, step = .press key → s.Passes key)
        ∨ ∃ key, step = .press key ∧ s.OnRow key kind id ∧ (s.handleKey key).2 = none) := by
  have hkept : Undisturbed s (s.after step) →
      s.armed? kind = some id ∧ (s.after step).ArmedOn kind id := by
    intro hrest
    have hbefore : s.armed? kind = some id := (armed?_congr hrest.viewOf kind).symm.trans harmed
    exact ⟨hbefore, (h kind id hbefore).undisturbed hrest⟩
  cases step with
  | press key =>
      rcases handleKey_cases h key with hunarmed | hpasses | ⟨other, row, hrow, hnone, hon⟩
      · have hnothing : (s.after (.press key)).armed? kind = none := hunarmed kind
        rw [harmed] at hnothing
        cases hnothing
      · rcases hkept hpasses.undisturbed with ⟨hbefore, hafter⟩
        refine ⟨hafter, .inl ⟨hbefore, ?_⟩⟩
        intro other heq
        cases heq
        exact hpasses
      · -- the row that was pressed is the armed one
        rcases hon.eq_of_armed harmed with ⟨rfl, rfl⟩
        exact ⟨hon, .inr ⟨key, rfl, hrow, hnone⟩⟩
  | clamp =>
      have hbefore : s.armed? kind = some id := (armed?_modifyCursor ..).symm.trans harmed
      exact ⟨(h kind id hbefore).clamp, .inl ⟨hbefore, fun _ heq => nomatch heq⟩⟩
  | _ =>
      rcases hkept (undisturbed_after s _ (fun _ => nofun) nofun) with ⟨hbefore, hafter⟩
      exact ⟨hafter, .inl ⟨hbefore, fun _ heq => nomatch heq⟩⟩

/-- All along a run, what is armed is in sight and was armed by a press. -/
theorem armedBefore_run (h : s.Unarmed) (steps : List ConsoleStep)
    (harmed : (s.run steps).armed? kind = some id) :
    (s.run steps).ArmedOn kind id ∧ ArmedBefore s steps kind id := by
  -- from the last event backwards, as the press that counts is the last one
  induction steps using List.reverseRecOn generalizing kind id with
  | nil =>
      rw [run_nil, h kind] at harmed
      cases harmed
  | append_singleton steps step ih =>
      have hsight : (s.run steps).ArmedInSight := fun _ _ harmed => (ih harmed).1
      have hlast : s.run (steps ++ [step]) = (s.run steps).after step := by
        rw [run_append]
        rfl
      rw [hlast] at harmed ⊢
      rcases armed_after hsight step harmed with ⟨hon, hbefore | ⟨key, rfl, hrow, hnone⟩⟩
      · -- the press is an earlier one, and this event is one more between
        refine ⟨hon, ?_⟩
        rcases (ih hbefore.1).2 with ⟨before, first, between, rfl, hrow, hnone, hstays⟩
        have hrun : s.run (before ++ .press first :: between)
            = ((s.run before).after (.press first)).run between := by
          rw [run_append]
          rfl
        rw [hrun] at hbefore hon
        exact ⟨before, first, between ++ [step], by simp, hrow, hnone,
          hstays.concat hbefore.2 hon⟩
      · -- this event is the press, and nothing is between
        exact ⟨hon, steps, key, [], rfl, hrow, hnone, hon⟩

/-- Whatever arrives in a run that begins with nothing armed, a stub is deleted only by the second
press on its row. -/
theorem delete_after_run (h : s.Unarmed) (steps : List ConsoleStep) :
    (∀ kind id, (s.run steps).armed? kind = some id → (s.run steps).ArmedOn kind id)
      ∧ ∀ key kind id, ((s.run steps).handleKey key).2 = some (.delete kind id) →
          (s.run steps).OnRow key kind id ∧ ArmedBefore s steps kind id := by
  refine ⟨fun kind id harmed => (armedBefore_run h steps harmed).1, ?_⟩
  intro key kind id hdelete
  rcases onRow_of_delete hdelete with ⟨hrow, harmed⟩
  exact ⟨hrow, (armedBefore_run h steps harmed).2⟩

/-- A page that lists one stub. -/
def oneStub : Console :=
  { initial with page := .stubs, stubs := ⟨[{ Stub.fresh with id := "7" }], .fresh, none⟩ }

theorem delete_after_run_oneStub :
    oneStub.Unarmed
      ∧ ((oneStub.run [.press (.ofChar 'd'), .clamp]).handleKey (.ofChar 'd')).2
          = some (.delete .rest "7")
      ∧ ArmedBefore oneStub [.press (.ofChar 'd'), .clamp] .rest "7" := by
  have hunarmed : oneStub.Unarmed := by
    intro kind
    cases kind <;> rfl
  have hdelete : ((oneStub.run [.press (.ofChar 'd'), .clamp]).handleKey (.ofChar 'd')).2
      = some (.delete .rest "7") := by
    decide +kernel
  exact ⟨hunarmed, hdelete, ((delete_after_run hunarmed _).2 _ _ _ hdelete).2⟩

end Run

end Console

end StubConsole
