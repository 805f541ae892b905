import Mathlib.Logic.Function.Iterate
import StubConsole.Proofs.Console.Dialog

/-!
# PickedState — the state that is highlighted is the one asked for

The dialog keeps the place of the state that was picked beside the text that is submitted.  Every
event that may change the text drops the place, so while one is shown the two agree.

* `ScenarioDialog.Agrees` — the text is the picked state, as the step that picked it left it;
* `ScenarioDialog.Agrees.turn`, `Console.agrees_run` — it stays so, by any event and any run;
* `ScenarioDialog.moved_reversed`, `ScenarioDialog.moved_iterate` — steps around the known states;
* `Console.Highlighted`, `Console.highlighted_state_submitted` — what a shown place stands for.
-/

namespace StubConsole

namespace ScenarioDialog

variable {d e : ScenarioDialog} {i n : Nat}

/-! ## Steps -/

/-- The way back. -/
def Direction.reversed : Direction → Direction
  | .forward => .backward
  | .backward => .forward

theorem step_lt (hn : 0 < n) (picked : Option Nat) (direction : Direction) :
    step n picked direction < n := by
  cases picked with
  | none => cases direction <;> simp only [step] <;> omega
  | some i => cases direction <;> exact Nat.mod_lt _ hn

theorem step_reversed (hi : i < n) (direction : Direction) :
    step n (some (step n (some i) direction)) direction.reversed = i := by
  cases direction with
  | forward =>
      simp only [step, Direction.reversed]
      rcases Nat.lt_or_ge (i + 1) n with hnext | hlast
      · have hback : i + 1 + n - 1 = i + n := by omega
        rw [Nat.mod_eq_of_lt hnext, hback, Nat.add_mod_right, Nat.mod_eq_of_lt hi]
      · have hend : i + 1 = n := by omega
        rw [hend, Nat.mod_self, Nat.zero_add, Nat.mod_eq_of_lt (by omega)]
        omega
  | backward =>
      have hback : i + n - 1 + 1 = i + n := by omega
      simp only [step, Direction.reversed]
      rw [Nat.mod_add_mod, hback, Nat.add_mod_right, Nat.mod_eq_of_lt hi]

/-- The dialog after a key that steps through the known states. -/
def moved (direction : Direction) (d : ScenarioDialog) : ScenarioDialog :=
  { d.pick direction with error := none }

/-- A step reaches one of the known states, unless there are none. -/
theorem exists_moved_eq (h : d.possibleStates ≠ []) (direction : Direction) :
    ∃ place state, place = step d.possibleStates.length d.picked direction
      ∧ d.possibleStates[place]? = some state
      ∧ d.moved direction
        = { d with picked := some place, input := d.input.setContent state, error := none } := by
  have hlt := step_lt (List.length_pos_iff.2 h) d.picked direction
  have hstate := List.getElem?_eq_getElem hlt
  exact ⟨_, _, rfl, hstate, by simp only [moved, pick, hstate]⟩

theorem moved_of_nil (h : d.possibleStates = []) (direction : Direction) :
    d.moved direction = { d with error := none } := by
  simp [moved, pick, h]

/-! ## Place and text -/

/-- The text is the picked state, the cursor behind it. -/
def Agrees (d : ScenarioDialog) : Prop :=
  ∀ i, d.picked = some i →
    ∃ state, d.possibleStates[i]? = some state ∧ d.input = d.input.setContent state

theorem agrees_opened (scenario : Scenario) : (opened scenario).Agrees := nofun

theorem Agrees.moved (h : d.Agrees) (direction : Direction) : (d.moved direction).Agrees := by
  by_cases hstates : d.possibleStates = []
  · rw [moved_of_nil hstates]
    exact h
  · rcases exists_moved_eq hstates direction with ⟨place, state, -, hstate, hmoved⟩
    rw [hmoved]
    intro i hi
    cases hi
    exact ⟨state, hstate, rfl⟩

theorem Agrees.turn (h : d.Agrees) (hturn : d.Turn e) : e.Agrees := by
  cases hturn with
  | key hkey =>
      cases hkey with
      | stepped direction => exact h.moved direction
      -- a key that did anything to the text, if only to its cursor, drops the place
      | typed => exact nofun
      | told => exact h
  | marked => exact h

/-- A step there and back leads to the state that was picked. -/
theorem moved_reversed (h : d.Agrees) (hi : d.picked = some i) (direction : Direction) :
    (d.moved direction).moved direction.reversed = { d with error := none } := by
  rcases h i hi with ⟨state, hstate, hinput⟩
  have hlt : i < d.possibleStates.length := (List.getElem?_eq_some_iff.1 hstate).1
  have hstates : d.possibleStates ≠ [] := List.ne_nil_of_length_pos (Nat.zero_lt_of_lt hlt)
  rcases exists_moved_eq hstates direction with ⟨place, next, hplace, -, hmoved⟩
  have hback : step d.possibleStates.length (some place) direction.reversed = i := by
    rw [hplace, hi, step_reversed hlt]
  -- the text that is set again is the one that the first step to this place had set
  have hagain : (d.input.setContent next).setContent state = d.input := hinput.symm
  rw [hmoved]
  simp only [moved, pick, hback, hstate]
  rw [hagain, ← hi]

/-- Steps from a dialog in which nothing is picked go around the known states. -/
theorem moved_iterate (hnone : d.picked = none) (hstates : d.possibleStates ≠ []) (n : Nat) :
    ((moved .forward)^[n + 1] d).picked = some (n % d.possibleStates.length)
      ∧ ((moved .forward)^[n + 1] d).possibleStates = d.possibleStates := by
  induction n with
  | zero =>
      rcases exists_moved_eq hstates .forward with ⟨place, state, hplace, -, hmoved⟩
      rw [hnone] at hplace
      simp [hmoved, hplace, step]
  | succ n ih =>
      rw [Function.iterate_succ_apply']
      generalize (moved .forward)^[n + 1] d = after at ih ⊢
      rcases ih with ⟨hpicked, hsame⟩
      rcases exists_moved_eq (hsame ▸ hstates) .forward with ⟨place, state, hplace, -, hmoved⟩
      rw [hpicked, hsame] at hplace
      simp [hmoved, hplace, hsame, step]

end ScenarioDialog

namespace Console

open ScenarioDialog

variable {s : Console} {d : ScenarioDialog} {key : Key} {direction : Direction}

/-! ## Keys -/

/-- The keys of a dialog that step through the known states. -/
def stepOf? (key : Key) : Option Direction :=
  match key.code with
  | .up => some .backward
  | .down | .tab => some .forward
  | _ => none

theorem handleDialogKey_step (s : Console) (h : stepOf? key = some direction) :
    s.handleDialogKey key = (s.modifyDialog (moved direction), none) := by
  unfold stepOf? at h
  split at h <;> cases h
  all_goals
    next hcode =>
      simp only [handleDialogKey, hcode]
      rfl

theorem handleDialogKey_enter (hkey : key.code = .enter) (hd : s.scenarioPage.dialog = some d)
    (hsaving : d.saving = false) :
    s.handleDialogKey key
      = if Text.allBlank d.input.content then
          (s.modifyDialog fun d => { d with error := some "New state is required" }, none)
        else (s, some (.setScenarioState d.id (Text.trim d.input.content))) := by
  simp only [handleDialogKey, hkey, submitDialog, hd, hsaving, submission, Text.nonBlank?]
  by_cases hblank : Text.allBlank d.input.content = true
  · simp [hblank, done, stateRequired]
  · simp [hblank, ask]

theorem dialog_run_forward {keys : List Key} (hmode : s.mode = .dialog)
    (hkeys : ∀ key ∈ keys, stepOf? key = some .forward) :
    (s.run (keys.map .press)).scenarioPage.dialog
      = s.scenarioPage.dialog.map (moved .forward)^[keys.length] := by
  induction keys generalizing s with
  | nil => simp
  | cons key keys ih =>
      rw [List.forall_mem_cons] at hkeys
      have hafter : s.after (.press key) = s.modifyDialog (moved .forward) := by
        simp only [after, handleKey, hmode, handleDialogKey_step s hkeys.1]
      have hsame : (s.modifyDialog (moved .forward)).mode = .dialog := hmode
      rw [List.map_cons, run_cons, hafter, ih hsame hkeys.2]
      simp [modifyDialog]

/-- The first step forward is to the first state, and after the last one come all of them again. -/
theorem picked_run_forward {scenario : Scenario} {keys : List Key} (hmode : s.mode = .dialog)
    (hopened : s.scenarioPage.dialog = some (.opened scenario))
    (hstates : scenario.possibleStates ≠ []) (hne : keys ≠ [])
    (hkeys : ∀ key ∈ keys, stepOf? key = some .forward) :
    ∃ d, (s.run (keys.map .press)).scenarioPage.dialog = some d
      ∧ d.picked = some ((keys.length - 1) % scenario.possibleStates.length) := by
  have hlength : keys.length = keys.length - 1 + 1 :=
    (Nat.succ_pred_eq_of_pos (List.length_pos_iff.2 hne)).symm
  have hpicked := (moved_iterate (d := .opened scenario) rfl hstates (keys.length - 1)).1
  refine ⟨_, ?_, hpicked⟩
  rw [dialog_run_forward hmode hkeys, hopened, ← hlength]
  rfl

/-! ## Runs -/

/-- An event opens a dialog. -/
def opensDialog (s : Console) (step : ConsoleStep) : Bool := (s.opens? step).isSome

theorem agrees_after (h : ∀ d, s.scenarioPage.dialog = some d → d.Agrees) (step : ConsoleStep) :
    ∀ d, (s.after step).scenarioPage.dialog = some d → d.Agrees := by
  intro d hd
  have hturn := dialogTurn_after s step
  rw [hd] at hturn
  generalize s.scenarioPage.dialog = p at h hturn
  cases hturn with
  | turned hturn => exact (h _ rfl).turn hturn
  | opened _ scenario _ => exact agrees_opened scenario

theorem agrees_run (h : ∀ d, s.scenarioPage.dialog = some d → d.Agrees)
    (steps : List ConsoleStep) : ∀ d, (s.run steps).scenarioPage.dialog = some d → d.Agrees :=
  run_induction (P := fun s => ∀ d, s.scenarioPage.dialog = some d → d.Agrees)
    (fun _ step h => agrees_after h step) h steps

/-- Keys alone begin no call. -/
theorem saving_run_keys (h : ∀ d, s.scenarioPage.dialog = some d → d.saving = false)
    (keys : List Key) :
    ∀ d, (s.run (keys.map .press)).scenarioPage.dialog = some d → d.saving = false := by
  induction keys generalizing s with
  | nil => exact h
  | cons key keys ih =>
      refine ih ?_
      intro d hd
      have hturn := dialogTurn_handleKey s key
      rw [after] at hd
      rw [hd] at hturn
      generalize s.scenarioPage.dialog = p at h hturn
      cases hturn with
      | turned hturn => exact hturn.saving_eq.trans (h _ rfl)
      | opened => rfl

/-- Until a dialog is opened again, the one that is open is of the same scenario. -/
theorem scenario_run {id : String} {states : List String}
    (h : ∀ d, s.scenarioPage.dialog = some d → d.id = id ∧ d.possibleStates = states)
    {steps : List ConsoleStep} (hsteps : s.tally opensDialog steps = 0) :
    ∀ d, (s.run steps).scenarioPage.dialog = some d → d.id = id ∧ d.possibleStates = states := by
  induction steps generalizing s with
  | nil => exact h
  | cons step rest ih =>
      rw [tally_cons, Nat.add_eq_zero_iff, Bool.toNat_eq_zero] at hsteps
      refine ih ?_ hsteps.2
      intro d hd
      have hturn := dialogTurn_after s step
      rw [hd] at hturn
      generalize s.scenarioPage.dialog = p at h hturn
      cases hturn with
      | turned hturn =>
          rw [hturn.id_eq, hturn.possibleStates_eq]
          exact h _ rfl
      | opened _ scenario hchosen => simp [opensDialog, hchosen] at hsteps

/-! ## What is highlighted -/

/-- A place is shown in the dialog: it is the place of the text among the known states, Enter asks
for that state, and a step there and back changes nothing but that an error is gone. -/
structure Highlighted (s : Console) (d : ScenarioDialog) (i : Nat) : Prop where
  shown : d.possibleStates[i]? = some d.input.content
  submitted : d.saving = false → Text.allBlank d.input.content = false →
    ∀ key, key.code = .enter →
      s.handleDialogKey key = (s, some (.setScenarioState d.id (Text.trim d.input.content)))
  refused : d.saving = false → Text.allBlank d.input.content = true →
    ∀ key, key.code = .enter →
      s.handleDialogKey key
        = (s.modifyDialog fun d => { d with error := some "New state is required" }, none)
  back : ∀ key key' direction, stepOf? key = some direction →
    stepOf? key' = some direction.reversed →
      ((s.handleDialogKey key).1.handleDialogKey key').1.scenarioPage.dialog
        = some { d with error := none }

theorem highlighted_of_agrees {i : Nat} (hd : s.scenarioPage.dialog = some d) (h : d.Agrees)
    (hi : d.picked = some i) : s.Highlighted d i where
  shown := by
    rcases h i hi with ⟨state, hstate, hinput⟩
    rw [hinput]
    exact hstate
  submitted := by
    intro hsaving hsolid key hkey
    rw [handleDialogKey_enter hkey hd hsaving, hsolid]
    rfl
  refused := by
    intro hsaving hblank key hkey
    rw [handleDialogKey_enter hkey hd hsaving, hblank]
    rfl
  back := by
    intro key key' direction hkey hkey'
    rw [handleDialogKey_step s hkey, handleDialogKey_step _ hkey']
    simp only [modifyDialog, hd, Option.map_some, moved_reversed h hi]

/-- The dialog of a scenario is opened, and anything happens.  A place that a dialog shows then is
the place of its text, and that is what Enter submits; the states are those of the scenario unless a
dialog was opened again, and after keys alone no call keeps Enter back.  Steps forward at the start
go around the states, the first one to the first state. -/
theorem highlighted_state_submitted {s : Console} {scenario : Scenario}
    (hs : s.selectedScenario? = some scenario) (steps : List ConsoleStep) :
    let t := s.openDialog.run steps
    (∀ d, t.scenarioPage.dialog = some d →
      (∀ i, d.picked = some i → t.Highlighted d i)
        ∧ (s.openDialog.tally opensDialog steps = 0 →
            d.id = scenario.id ∧ d.possibleStates = scenario.possibleStates)
        ∧ (∀ keys : List Key, steps = keys.map .press → d.saving = false))
      ∧ ∀ keys : List Key, keys ≠ [] → (∀ key ∈ keys, stepOf? key = some .forward) →
          scenario.possibleStates ≠ [] →
          ∃ d, (s.openDialog.run (keys.map .press)).scenarioPage.dialog = some d
            ∧ d.picked = some ((keys.length - 1) % scenario.possibleStates.length) := by
  intro t
  have hopened : s.openDialog.scenarioPage.dialog = some (.opened scenario) := by
    simp only [openDialog, hs]
  have hmode : s.openDialog.mode = .dialog := by simp only [openDialog, hs]
  refine ⟨?_, ?_⟩
  · intro d hd
    refine ⟨?_, ?_, ?_⟩
    · intro i hi
      refine highlighted_of_agrees hd (agrees_run ?_ steps d hd) hi
      intro d hd
      cases hopened.symm.trans hd
      exact agrees_opened scenario
    · intro hsteps
      refine scenario_run ?_ hsteps d hd
      intro d hd
      cases hopened.symm.trans hd
      exact ⟨rfl, rfl⟩
    · rintro keys rfl
      refine saving_run_keys ?_ keys d hd
      intro d hd
      cases hopened.symm.trans hd
      rfl
  · intro keys hne hkeys hstates
    exact picked_run_forward hmode hopened hstates hne hkeys

/-- Picked, typed over, and picked again up to a state with blanks around it. -/
theorem highlighted_state_repicked :
    let scenario : Scenario := ⟨"7", "checkout", "Started", ["Started", " Paid ", ""]⟩
    let s : Console := { initial with scenarios.items := [scenario] }
    let t := s.openDialog.run [.press (.plain .up), .press (.ofChar 'x'), .press (.plain .down),
      .press (.plain .tab)]
    s.selectedScenario? = some scenario
      ∧ ∃ d, t.scenarioPage.dialog = some d ∧ d.picked = some 1 ∧ t.Highlighted d 1
        ∧ t.handleDialogKey (.plain .enter) = (t, some (.setScenarioState "7" "Paid")) := by
  intro scenario s t
  have hs : s.selectedScenario? = some scenario := rfl
  have hpicked : (t.scenarioPage.dialog.map fun d => (d.picked, d.saving, d.id, d.input.content))
      = some (some 1, false, "7", " Paid ") := by decide +kernel
  rcases Option.map_eq_some_iff.1 hpicked with ⟨d, hd, hfields⟩
  simp only [Prod.mk.injEq] at hfields
  rcases hfields with ⟨hplace, hsaving, hid, htext⟩
  have hshown : t.Highlighted d 1 :=
    ((highlighted_state_submitted hs _).1 d hd).1 1 hplace
  have henter := hshown.submitted hsaving (by rw [htext]; decide) (.plain .enter) rfl
  have htrim : Text.trim " Paid " = "Paid" := by decide
  rw [hid, htext, htrim] at henter
  exact ⟨hs, d, hd, hplace, hshown, henter⟩

end Console

end StubConsole
