import StubConsole.Proofs.Console.Pane
import StubConsole.Proofs.Console.Typing

/-!
# Reached — what is open after any run

From the start on, whatever keys are pressed and whatever answers arrive between them, keys are
taken for something that is open where it belongs.

* `Console.Consistent.apply`, `Console.Consistent.handleKey` — actions and keys;
* `Console.consistent_after`, `Console.consistent_run` — one event and a whole run;
* `Console.typed_after_run` — characters that are typed after any run are text.
-/

namespace StubConsole

namespace Console

variable {s : Console}

/-! ## Actions -/

namespace Placed

theorem sameFocus {t : Console} (h : s.Placed) (hf : SameFocus s t) : t.Placed :=
  h.congr hf.page (congrArg Option.isSome hf.lineInput) (congrArg EditorPane.active hf.editor)

theorem closeEditor (h : s.Placed) : s.closeEditor.Consistent := by
  have hplaced : s.closeEditor.Placed := by
    refine ⟨?_, ?_, h.line⟩
    · intro e hactive
      cases hactive
    · intro e hactive
      cases hactive
  exact hplaced.consistent rfl

theorem openEditor (h : s.Placed) {kind : StubKind} (hpage : s.page = kind.page)
    (item : kind.Item) : (s.openEditor (.opened kind item)).Consistent := by
  have hfocus := SameFocus.modifyView s ListView.disarm
  have hplaced : (s.openEditor (.opened kind item)).Placed := by
    refine ⟨?_, ?_, (h.sameFocus hfocus).line⟩
    · intro e hactive
      cases hactive
      exact hfocus.page.trans hpage
    · intro e hactive
      cases hactive
      exact Session.coherent_opened item
  exact hplaced.consistent rfl

/-- The step that is made may depend on the editor. -/
theorem editBy (h : s.Placed) (step : Editor → SessionStep) :
    (s.modifyEditor fun e => e.edit (step e)).Placed := by
  cases hactive : s.editor.active with
  | none =>
      rw [modifyEditor_eq_self hactive]
      exact h
  | some e =>
      rw [modifyEditor_eq hactive]
      exact h.edit hactive (step e)

end Placed

namespace Consistent

theorem openNew (h : s.Consistent) : s.openNew.Consistent := by
  unfold Console.openNew
  split
  next kind hkind => exact h.openEditor (StubKind.ofPage?_eq_some.1 hkind) kind.fresh
  next => exact h

theorem openSelected (h : s.Consistent) : s.openSelected.Consistent := by
  unfold Console.openSelected
  split
  next editor heditor =>
    rcases exists_of_selectedEditor? heditor with ⟨kind, item, hpage, rfl⟩
    exact h.openEditor hpage item
  next => exact h

/-- Search begins on a page with a search box, and with the editor closed. -/
theorem enterSearch (h : s.Consistent) (hclosed : s.editor.active = none) :
    s.enterSearch.Consistent := by
  have hfocus := SameFocus.modifyView s ListView.disarm
  unfold Console.enterSearch
  split
  next hsearch =>
    refine ⟨(h.sameFocus hfocus).congr rfl rfl rfl, ?_, nofun, nofun, nofun⟩
    intro _
    exact ⟨(hasSearch_congr hfocus.page).trans hsearch,
      (congrArg EditorPane.active hfocus.editor).trans hclosed⟩
  next => exact h

theorem openDialog (h : s.Consistent) : s.openDialog.Consistent := by
  unfold Console.openDialog
  split
  next => exact ⟨h.toPlaced.congr rfl rfl rfl, nofun, nofun, nofun, fun _ => rfl⟩
  next => exact h

/-- A draft that cannot be read as a record stays a text, and its input is closed. -/
theorem toggleJson (h : s.Consistent) (hmode : s.mode = .normal) : s.toggleJson.Consistent := by
  unfold Console.toggleJson
  split
  next => exact h
  next e hactive =>
    have hedited := (h.toPlaced.edit hactive .toggleMode).consistent hmode
    dsimp only
    split
    · exact hedited.toNormal
    · exact hedited.withNotice _

/-- Where keys are for the page or its editor, an action leaves them for what is open then. -/
theorem apply (h : s.Consistent) (hmode : s.mode = .normal) (action : Action)
    (hsearch : action = .enterSearch → s.editor.active = none) : (s.apply action).Consistent := by
  cases action with
  | goTo page => exact (placed_of_closed rfl rfl).consistent rfl
  | nextPage => exact (placed_of_closed rfl rfl).consistent rfl
  | prevPage => exact (placed_of_closed rfl rfl).consistent rfl
  | selectNext => exact (SameFocus.selectNext s).consistent h
  | selectPrev => exact (SameFocus.selectPrev s).consistent h
  | enterSearch => exact h.enterSearch (hsearch rfl)
  | appendSearch text => exact (SameFocus.changeSearch s _).consistent h
  | backspaceSearch => exact (SameFocus.changeSearch s _).consistent h
  | clearSearch => exact (SameFocus.changeSearch s _).consistent h
  | cycleMethod => exact (SameFocus.cycleMethod s).consistent h
  | cycleStatus => exact (SameFocus.changeJournal s _).consistent h
  | toggleOrder => exact (SameFocus.changeJournal s _).consistent h
  | toggleDetails => exact (SameFocus.changeJournal s _).consistent h
  | openNew => exact h.openNew
  | openSelected => exact h.openSelected
  | closeEditor => exact h.closeEditor
  | nextTab => exact (h.editBy fun e => .setTab e.session.tab.next).consistent hmode
  | prevTab => exact (h.editBy fun e => .setTab e.session.tab.prev).consistent hmode
  | nextField => exact (h.editBy fun _ => .selectNext).consistent hmode
  | prevField => exact (h.editBy fun _ => .selectPrev).consistent hmode
  | toggleJson => exact h.toggleJson hmode
  | openDialog => exact h.openDialog
  | closeDialog => exact h.congr rfl rfl rfl (.inr rfl) (.inr rfl)
  | pickState direction => exact h.modifyDialog _
  | leaveSearch => exact h.toNormal
  -- the other actions change nothing that can be open
  | _ => exact h.congr rfl rfl rfl (.inl rfl) (.inl rfl)

/-! ## Keys -/

/-- An input that was opened is over a form, and no field of a page is open with it. -/
theorem startEditing (h : s.Consistent) (hmode : s.mode = .normal) :
    s.startEditing.Consistent := by
  unfold Console.startEditing
  split
  next => exact h
  next e hactive =>
    split
    next => exact h
    next =>
      split
      next hraw =>
        refine ⟨h.toPlaced.congr rfl rfl rfl, nofun, nofun, ?_, nofun⟩
        intro _
        exact ⟨e, hactive, hraw⟩
      next =>
        have hedited := h.toPlaced.edit hactive .activate
        dsimp only
        split
        next hopened =>
          rcases Session.input_of_activate hopened with ⟨hinput, hform⟩
          refine ⟨hedited.congr rfl rfl rfl, nofun, fun _ => ?_, nofun, nofun⟩
          exact .editor _ (active_modifyEditor hactive _) hform hinput
            (h.lineInput_eq_none hactive)
        next => exact hedited.consistent hmode

theorem handleEditorKey (h : s.Consistent) (hmode : s.mode = .normal) (key : Key) :
    (s.handleEditorKey key).1.Consistent := by
  have hanswer := paneAnswer_handleEditorKey s key
  generalize s.handleEditorKey key = result at hanswer ⊢
  cases hanswer with
  | act action hof =>
      refine h.apply hmode action ?_
      intro hsearch
      rw [hsearch] at hof
      cases hof
  | edit => exact h.startEditing hmode
  | _ => exact h

/-- The pages whose field can be opened are those that have one. -/
theorem beginLineInput (h : s.Consistent) (hclosed : s.editor.active = none) :
    s.beginLineInput.Consistent := by
  unfold Console.beginLineInput
  split
  next text htext =>
    have hpage : s.page ∈ linePages := by
      unfold lineText? at htext
      split at htext
      next hpage => rw [hpage]; decide
      next hpage => rw [hpage]; decide
      next hpage => rw [hpage]; decide
      next => cases htext
    exact ⟨⟨h.kind, h.session, fun _ => hpage⟩, nofun, fun _ => .line rfl hclosed, nofun, nofun⟩
  next => exact h

theorem pressDelete (h : s.Consistent) (kind : StubKind) : (s.pressDelete kind).1.Consistent := by
  have hview : ∀ f, (s.modifyView f).Consistent := by
    intro f
    exact (SameFocus.modifyView s f).consistent h
  unfold Console.pressDelete
  split
  · exact h
  · dsimp only
    split
    · exact (hview _).withNotice _
    · exact (hview _).withNotice _

theorem handleNormalKey (h : s.Consistent) (hmode : s.mode = .normal)
    (hclosed : s.editor.active = none) (key : Key) : (s.handleNormalKey key).1.Consistent := by
  have hanswer := pageAnswer_handleNormalKey s key
  generalize s.handleNormalKey key = result at hanswer ⊢
  cases hanswer with
  | act action => exact h.apply hmode action fun _ => hclosed
  | line => exact h.beginLineInput hclosed
  | disarm => exact ((SameFocus.modifyView s _).consistent h).withNotice _
  | press kind _ _ => exact h.pressDelete kind
  | quit => exact h.congr rfl rfl rfl (.inl rfl) (.inl rfl)
  | _ => exact h

theorem handleKey (h : s.Consistent) (key : Key) : (s.handleKey key).1.Consistent := by
  by_cases hmode : s.mode = .normal
  · cases hopen : s.editor.isOpen with
    | true =>
        have hkey : s.handleKey key = s.handleEditorKey key := by
          simp only [Console.handleKey, hmode, hopen, if_true]
        rw [hkey]
        exact h.handleEditorKey hmode key
    | false =>
        rw [handleKey_of_normal hmode hopen key]
        exact h.handleNormalKey hmode (EditorPane.isOpen_eq_false_iff.1 hopen) key
  · exact h.handleTypingKey hmode key

/-! ## Calls of an editor -/

/-- Marks of a save concern neither draft nor input. -/
theorem mark (h : s.Consistent) (errors : Editor → List String) (saving : Editor → Bool) :
    (s.modifyEditor fun e => e.edit (.mark (errors e) (saving e))).Consistent := by
  cases hactive : s.editor.active with
  | none =>
      rw [modifyEditor_eq_self hactive]
      exact h
  | some e =>
      rw [modifyEditor_eq hactive]
      exact h.edit hactive _ rfl rfl

theorem startSave (h : s.Consistent) : s.startSave.1.Consistent := by
  unfold Console.startSave
  split
  · exact h
  · split
    · exact h
    · split
      · exact h.mark (fun _ => []) fun _ => true
      next faults _ =>
        exact h.mark (fun _ => faults.map DraftFault.message) fun e => e.session.saving

/-- The editor of a saved stub closes, and keys are for the page. -/
theorem finishSave (h : s.Consistent) (plan : SavePlan) (r : Except ApiError plan.kind.Item) :
    (s.finishSave plan r).Consistent := by
  cases r with
  | ok item =>
      have hchanged := (Elsewhere.modifyCollection s (.stubs plan.kind) fun c =>
        Cache.updated (α := plan.kind.Item) c item).consistent h
      exact hchanged.closeEditor.withNotice _
  | error cause =>
      exact h.mark (fun _ => [cause.failureMessage ("save " ++ plan.kind.noun)]) fun _ => false

/-- The pane may change around the editor. -/
theorem withPane (h : s.Consistent) {pane : EditorPane} (hactive : pane.active = s.editor.active) :
    { s with editor := pane }.Consistent :=
  h.congr rfl rfl hactive (.inl rfl) (.inl rfl)

theorem startWsdlCheck (h : s.Consistent) : s.startWsdlCheck.1.Consistent := by
  unfold Console.startWsdlCheck
  split
  · exact h
  · split
    · exact h.withNotice _
    · exact h.withPane rfl

theorem finishWsdlCheck (h : s.Consistent) (url : String) (r : Except ApiError Unit) :
    (s.finishWsdlCheck url r).Consistent := by
  have hpane : { s with editor.validating := false }.Consistent := h.withPane rfl
  cases r with
  | ok _ => exact hpane.withNotice _
  | error _ => exact hpane.withNotice _

theorem startTrial (h : s.Consistent) (base : String) : (s.startTrial base).1.Consistent := by
  unfold Console.startTrial
  split
  · exact h
  · split
    next request _ => cases request <;> exact h.withPane rfl
    · exact h

end Consistent

/-! ## Runs -/

theorem consistent_after (h : s.Consistent) (step : ConsoleStep) : (s.after step).Consistent := by
  -- keys, the redraw and the calls of an editor apart, nothing comes near what is open
  have helsewhere : (∀ key, step ≠ .press key) → step ≠ .clamp → step.ofEditor = false →
      (s.after step).Consistent := by
    intro hkey hclamp hof
    exact (elsewhere_after s step hkey hclamp hof).consistent h
  cases step with
  | press key => exact h.handleKey key
  | clamp => exact (SameFocus.modifyCursor s _).consistent h
  | begin config command =>
      cases command with
      | saveEditor => exact h.startSave
      | executeEditor => exact h.startTrial ..
      | validateWsdl => exact h.startWsdlCheck
      | _ => exact helsewhere (fun _ => nofun) nofun rfl
  | finish task outcome =>
      cases task with
      | save plan => exact h.finishSave plan outcome
      | checkWsdl url => exact h.finishWsdlCheck url outcome
      | execute request => exact h.withPane rfl
      | _ => exact helsewhere (fun _ => nofun) nofun rfl
  | _ => exact helsewhere (fun _ => nofun) nofun rfl

theorem consistent_initial : initial.Consistent :=
  (placed_of_closed rfl rfl).consistent rfl

theorem consistent_run (h : s.Consistent) (steps : List ConsoleStep) :
    (s.run steps).Consistent := by
  have hstep : ∀ (t : Console) (step : ConsoleStep), t.Consistent → (t.after step).Consistent := by
    intro t step ht
    exact consistent_after ht step
  exact run_induction hstep h steps

theorem unarmed_initial : initial.Unarmed := by
  intro kind
  cases kind <;> rfl

/-- A row is armed in normal mode only. -/
theorem unarmed_run (h : s.Unarmed) (steps : List ConsoleStep)
    (hmode : (s.run steps).mode ≠ .normal) : (s.run steps).Unarmed := by
  have hsight : (s.run steps).ArmedInSight := by
    intro kind id harmed
    exact (armedBefore_run h steps harmed).1
  refine hsight.unarmed ?_
  intro kind id hon
  exact hmode hon.mode

/-- After any run keys are for something that is open where it belongs, and a character that is
typed there is text: it asks for nothing, leaves neither page nor mode, and arms no row. -/
theorem typed_after_run (steps : List ConsoleStep) :
    (initial.run steps).Consistent
      ∧ ∀ key c, key.code = .char c → key.ctrl = false → (initial.run steps).mode ≠ .normal →
          Typed (initial.run steps) ((initial.run steps).handleKey key)
            ∧ ((initial.run steps).handleKey key).1.Unarmed := by
  have hmodes : (initial.run steps).Consistent := consistent_run consistent_initial steps
  refine ⟨hmodes, ?_⟩
  intro key c hcode hctrl hmode
  have hunarmed : (initial.run steps).Unarmed := unarmed_run unarmed_initial steps hmode
  have htyped := typed_handleKey hmodes hmode hcode hctrl
  refine ⟨htyped, hunarmed.handleKey key ?_⟩
  intro hnormal
  exact hmode hnormal.1

/-- One way into each of the modes: the search box of the stubs, the field of a setting, a field
of a new stub, its document, and the dialog of a scenario. -/
def typingRuns : List (List ConsoleStep) :=
  [[.press (.ofChar '2'), .press (.ofChar '/')],
    [.press (.ofChar '9'), .press (.ofChar 'e')],
    [.press (.ofChar '2'), .press (.ofChar 'n'), .press (.ofChar 'l'), .press (.plain .enter)],
    [.press (.ofChar '2'), .press (.ofChar 'n'), .press (.ofChar 'J'), .press (.plain .enter)],
    [.press (.ofChar '5'), .finish (.fetch .scenarios) (.ok [⟨"1", "order", "Started", []⟩]),
      .press (.ofChar 'e')]]

theorem typed_after_typingRuns :
    typingRuns.map (fun run => (initial.run run).mode)
        = [.searching, .editingField, .editingField, .editingJson, .dialog]
      ∧ ∀ run ∈ typingRuns,
          Typed (initial.run run) ((initial.run run).handleKey (.ofChar 'q')) := by
  have hmodes : typingRuns.map (fun run => (initial.run run).mode)
      = [.searching, .editingField, .editingField, .editingJson, .dialog] := by
    decide +kernel
  refine ⟨hmodes, ?_⟩
  intro run hrun
  have hmode : (initial.run run).mode ≠ .normal := by
    intro hnormal
    have hmem := List.mem_map_of_mem (f := fun run => (initial.run run).mode) hrun
    rw [hmodes, hnormal] at hmem
    exact absurd hmem (by decide)
  exact ((typed_after_run run).2 (.ofChar 'q') 'q' rfl rfl hmode).1

end Console

end StubConsole
