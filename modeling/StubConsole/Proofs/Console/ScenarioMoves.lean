import StubConsole.Proofs.Console.Dialog

/-!
# ScenarioMoves — answers to a move of a scenario

A scenario is moved to another state from its dialog.  The answer does not tell whose dialog it is
for: it goes to the one that is open when it arrives, or to none.

* `Console.OnlyDialogOf` — no other scenario has its dialog open;
* `Console.MoveReported` — the user is told of the scenario that was moved, and of no other;
* `Console.MoveHarmless` — the states in which an answer does so, and no other does;
* `Console.opensOther` — the events that open the dialog of another scenario;
* `Console.move_reported_iff` — answers after any run.
-/

namespace StubConsole

namespace Console

/-! ## What the user is told -/

/-- No dialog is open but the one of this scenario. -/
def OnlyDialogOf (s : Console) (id : String) : Prop :=
  ∀ d, s.scenarioPage.dialog = some d → d.id = id

/-- The name of a scenario as its dialog shows it, or its identifier if that is not open. -/
def shownName (s : Console) (id : String) : String :=
  match s.scenarioPage.dialog with
  | some d => if d.id = id then d.name else id
  | none => id

/-- The scenario was moved: its dialog closes, the one of another scenario stays as it is with what
is typed there, and the notice names the scenario that was moved. -/
structure MoveDone (s t : Console) (id state : String) : Prop where
  other : ∀ d, s.scenarioPage.dialog = some d → d.id ≠ id →
    t.scenarioPage.dialog = some d ∧ t.mode = s.mode
  own : ∀ d, s.scenarioPage.dialog = some d → d.id = id → t.scenarioPage.dialog = none
  notice : t.notice = some (.success ("Scenario " ++ s.shownName id ++ " moved to " ++ state))

/-- The scenario was not moved: its dialog shows the failure, another one does not. -/
structure MoveRefused (s t : Console) (id : String) (cause : ApiError) : Prop where
  other : ∀ d, s.scenarioPage.dialog = some d → d.id ≠ id → t.scenarioPage.dialog = some d
  own : ∀ d, s.scenarioPage.dialog = some d → d.id = id →
    t.scenarioPage.dialog
      = some { d with saving := false, error := some (cause.failureMessage "update scenario") }

def MoveReported (s t : Console) (id state : String) : Except ApiError Scenario → Prop
  | .ok _ => MoveDone s t id state
  | .error cause => MoveRefused s t id cause

/-- What must be so for an answer to reach the right dialog.  A failure does no harm either where
the same one is shown already. -/
def MoveHarmless (s : Console) (id : String) : Except ApiError Scenario → Prop
  | .ok _ => s.OnlyDialogOf id
  | .error cause => ∀ d, s.scenarioPage.dialog = some d →
      d.id = id ∨ d.saving = false ∧ d.error = some (cause.failureMessage "update scenario")

section Answers

variable {s : Console} {id : String}

theorem moveDone_iff (state : String) (moved : Scenario) :
    MoveDone s (s.finishMove id state (.ok moved)) id state ↔ s.OnlyDialogOf id := by
  constructor
  · intro h d hd
    by_cases hown : d.id = id
    · exact hown
    · -- whatever dialog was open is closed
      have hclosed : none = some d := (h.other d hd hown).1
      cases hclosed
  · intro h
    refine ⟨fun d hd hother => absurd (h d hd) hother, fun _ _ _ => rfl, ?_⟩
    have hname : (s.scenarioPage.dialog.map ScenarioDialog.name).getD id = s.shownName id := by
      unfold shownName
      cases hd : s.scenarioPage.dialog with
      | none => rfl
      | some d => simp only [Option.map_some, Option.getD_some, h d hd, if_true]
    rw [← hname]
    rfl

theorem moveRefused_iff (state : String) (cause : ApiError) :
    MoveRefused s (s.finishMove id state (.error cause)) id cause
      ↔ s.MoveHarmless id (.error cause) := by
  constructor
  · intro h d hd
    by_cases hown : d.id = id
    · exact .inl hown
    · -- the dialog of another scenario is marked, so it had these marks before
      have hsame := h.other d hd hown
      simp only [finishMove, modifyDialog, hd, Option.map_some, Option.some.injEq] at hsame
      exact .inr ⟨(congrArg ScenarioDialog.saving hsame).symm,
        (congrArg ScenarioDialog.error hsame).symm⟩
  · intro h
    refine ⟨?_, ?_⟩
    · intro d hd hother
      rcases h d hd with hown | ⟨hsaving, herror⟩
      · exact absurd hown hother
      · simp only [finishMove, modifyDialog, hd, Option.map_some, ← hsaving, ← herror]
    · intro d hd _
      simp only [finishMove, modifyDialog, hd, Option.map_some]

theorem moveReported_finish_iff (state : String) (r : Except ApiError Scenario) :
    MoveReported s (s.finish (.moveScenario id state) r).1 id state r ↔ s.MoveHarmless id r := by
  cases r with
  | ok moved => exact moveDone_iff state moved
  | error cause => exact moveRefused_iff state cause

theorem OnlyDialogOf.harmless (h : s.OnlyDialogOf id) (r : Except ApiError Scenario) :
    s.MoveHarmless id r := by
  cases r with
  | ok moved => exact h
  | error cause => exact fun d hd => .inl (h d hd)

end Answers

/-! ## Until the answer comes -/

/-- The event opens the dialog of another scenario. -/
def opensOther (id : String) (s : Console) (step : ConsoleStep) : Bool :=
  (s.opens? step).any fun scenario => scenario.id != id

theorem OnlyDialogOf.after {s : Console} {id : String} (h : s.OnlyDialogOf id)
    {step : ConsoleStep} (hstep : opensOther id s step = false) :
    (s.after step).OnlyDialogOf id := by
  intro d hd
  have hdialog := dialogStep_after s step
  rw [hd] at hdialog
  generalize hafter : some d = after at hdialog
  cases hdialog with
  | closed => cases hafter
  | changed f hf =>
      rcases Option.map_eq_some_iff.1 hafter.symm with ⟨old, hold, rfl⟩
      exact (hf old).trans (h old hold)
  | opened scenario hchosen =>
      cases hafter
      -- a dialog that was opened just now is of the scenario that was chosen
      have hid : scenario.id = id := by simpa [opensOther, hchosen] using hstep
      exact hid

theorem OnlyDialogOf.run {s : Console} {id : String} (h : s.OnlyDialogOf id)
    (steps : List ConsoleStep) (hsteps : s.tally (opensOther id) steps = 0) :
    (s.run steps).OnlyDialogOf id := by
  induction steps generalizing s with
  | nil => exact h
  | cons step rest ih =>
      rw [tally_cons, Nat.add_eq_zero_iff, Bool.toNat_eq_zero] at hsteps
      exact ih (h.after hsteps.1) hsteps.2

/-- A scenario is moved, and anything happens before the answer comes.  The user is told of this
scenario exactly if the answer is harmless then; and so it is if its dialog was the only one at the
start and no key opened the dialog of another scenario since. -/
theorem move_reported_iff (s : Console) (config : Config) (id state : String)
    (steps : List ConsoleStep) (r : Except ApiError Scenario) :
    let events := .begin config (.setScenarioState id state) :: steps
    let u := s.run events
    let v := (u.finish (.moveScenario id state) r).1
    (MoveReported u v id state r ↔ u.MoveHarmless id r)
      ∧ (s.OnlyDialogOf id → s.tally (opensOther id) events = 0 →
          MoveReported u v id state r) := by
  intro events u v
  -- nothing but the dialog decides, and the dialog is known from the events
  have hiff : MoveReported u v id state r ↔ u.MoveHarmless id r := moveReported_finish_iff state r
  refine ⟨hiff, ?_⟩
  intro hs hevents
  exact hiff.2 ((hs.run events hevents).harmless r)

/-- Two scenarios, and the dialog of the first one. -/
def twoScenarios : Console :=
  ({ initial with
    page := .scenarios
    scenarios.items :=
      [⟨"1", "door", "Closed", ["Closed", "Open"]⟩,
        ⟨"2", "gate", "Closed", ["Closed", "Open"]⟩] } : Console).run [.press (.ofChar 'e')]

/-- The dialog is closed while the call is open, and opened again. -/
theorem move_reported_reopened :
    let events := [.begin .default (.setScenarioState "1" "Open"), .press (.plain .escape),
      .press (.ofChar 'j'), .press (.ofChar 'k'), .press (.ofChar 'e')]
    let u := twoScenarios.run events
    twoScenarios.OnlyDialogOf "1"
      ∧ twoScenarios.tally (opensOther "1") events = 0
      ∧ MoveDone u (u.finishMove "1" "Open" (.ok ⟨"1", "door", "Open", ["Closed", "Open"]⟩))
          "1" "Open" := by
  intro events u
  have hown : twoScenarios.OnlyDialogOf "1" := by
    intro d hd
    cases hd
    rfl
  have hevents : twoScenarios.tally (opensOther "1") events = 0 := by decide +kernel
  have hreported := move_reported_iff twoScenarios .default "1" "Open"
    [.press (.plain .escape), .press (.ofChar 'j'), .press (.ofChar 'k'), .press (.ofChar 'e')]
    (.ok ⟨"1", "door", "Open", ["Closed", "Open"]⟩)
  exact ⟨hown, hevents, hreported.2 hown hevents⟩

/-- Another dialog is open when the answer comes: it closes, and its scenario is said to have
moved. -/
theorem late_move_closes_other_dialog :
    let u := twoScenarios.run [.begin .default (.setScenarioState "1" "Open"),
      .press (.plain .escape), .press (.ofChar 'j'), .press (.ofChar 'e')]
    let v := u.finishMove "1" "Open" (.ok ⟨"1", "door", "Open", ["Closed", "Open"]⟩)
    u.scenarioPage.dialog.map ScenarioDialog.id = some "2"
      ∧ v.scenarioPage.dialog = none
      ∧ v.notice = some (.success "Scenario gate moved to Open")
      ∧ ¬MoveDone u v "1" "Open" := by
  intro u v
  have hother : u.scenarioPage.dialog.map ScenarioDialog.id = some "2" := by decide +kernel
  refine ⟨hother, rfl, by decide +kernel, ?_⟩
  intro h
  rcases Option.map_eq_some_iff.1 hother with ⟨d, hd, hid⟩
  have hclosed : none = some d := (h.other d hd (by rw [hid]; decide)).1
  cases hclosed

end Console

end StubConsole
