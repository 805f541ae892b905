import StubConsole.Proofs.Console.Steps

/-!
# InFlight — tasks that wait for their answers

The steps of a run may bring any answer at any time.  In a genuine run an answer belongs to a task
that was started and has not been answered yet.

* `Console.started` — the task that an event starts, `ConsoleStep.answered?` — the one it ends;
* `Console.inFlight` — the tasks that are open after a run;
* `Console.Genuine` — runs in which only open tasks are answered;
* `Console.MarkStep`, `Console.Guards` — a mark that stands for the open tasks of one sort;
* `Console.Guards.inFlight` — so it is set exactly while one of them is open, and never two are.
-/

namespace StubConsole

def ConsoleStep.answered? : ConsoleStep → Option Task
  | .finish t _ => some t
  | _ => none

namespace Console

/-- The task that an event starts.  An answer may start one that follows. -/
def started (s : Console) : ConsoleStep → Option Task
  | .begin config command => (s.begin config command).2
  | .refresh page => (s.startRefresh page).2
  | .ensure => s.startEnsure.2
  | .finish t r => (s.finish t r).2
  | _ => none

/-! ## Open tasks -/

/-- The open tasks without the one that an event answers. -/
def unanswered (flight : List Task) (step : ConsoleStep) : List Task :=
  match step.answered? with
  | some t => flight.erase t
  | none => flight

/-- The open tasks after one event. -/
def flightAfter (s : Console) (flight : List Task) (step : ConsoleStep) : List Task :=
  unanswered flight step ++ (s.started step).toList

/-- The open tasks after a run. -/
def inFlight (s : Console) (flight : List Task) : List ConsoleStep → List Task
  | [] => flight
  | step :: rest => inFlight (s.after step) (s.flightAfter flight step) rest

/-- Every answer in the run belongs to a task that is open then. -/
def Genuine (s : Console) (flight : List Task) : List ConsoleStep → Prop
  | [] => True
  | step :: rest =>
      (∀ t, step.answered? = some t → t ∈ flight)
        ∧ Genuine (s.after step) (s.flightAfter flight step) rest

section Runs

variable {s : Console} {flight : List Task}

/-- What holds of the console and its open tasks, and is kept by every genuine step, holds after
every genuine run. -/
theorem genuine_induction {P : Console → List Task → Prop}
    (hstep : ∀ s flight step, (∀ t, step.answered? = some t → t ∈ flight) → P s flight →
      P (s.after step) (s.flightAfter flight step))
    (h : P s flight) {steps : List ConsoleStep} (hgenuine : s.Genuine flight steps) :
    P (s.run steps) (s.inFlight flight steps) := by
  induction steps generalizing s flight with
  | nil => exact h
  | cons step rest ih =>
      rcases hgenuine with ⟨hanswer, hrest⟩
      exact ih (hstep s flight step hanswer h) hrest

end Runs

/-! ## Marks that count open tasks -/

/-- What an event can do to a mark that stands for open tasks of one sort, where `answered` is the
task that it ends and `r` the console after it with the task that it starts. -/
inductive MarkStep (mark : Console → Bool) (sort : Task → Bool) (s : Console)
    (answered : Option Task) (r : StartResult) : Prop where
  | other (hanswered : ∀ t, answered = some t → sort t = false)
      (hstarted : ∀ t, r.2 = some t → sort t = false) (hmark : mark r.1 = mark s) :
      MarkStep mark sort s answered r
  | begins {t : Task} (hanswered : ∀ t, answered = some t → sort t = false)
      (hstarted : r.2 = some t) (hsort : sort t = true) (hidle : mark s = false)
      (hmark : mark r.1 = true) : MarkStep mark sort s answered r
  | goesOn {t u : Task} (hanswered : answered = some t) (hsort : sort t = true)
      (hstarted : r.2 = some u) (hfollows : sort u = true) (hmark : mark r.1 = mark s) :
      MarkStep mark sort s answered r
  | ends {t : Task} (hanswered : answered = some t) (hsort : sort t = true)
      (hstarted : ∀ t, r.2 = some t → sort t = false) (hmark : mark r.1 = false) :
      MarkStep mark sort s answered r

/-- A mark of the console stands for open tasks of one sort. -/
def Guards (mark : Console → Bool) (sort : Task → Bool) : Prop :=
  ∀ s step, MarkStep mark sort s step.answered? (s.after step, s.started step)

section Marks

variable {mark : Console → Bool} {sort : Task → Bool} {s : Console} {flight : List Task}

theorem countP_toList_eq_zero {o : Option Task} (h : ∀ t, o = some t → sort t = false) :
    o.toList.countP sort = 0 := by
  cases o with
  | none => rfl
  | some t => simp [h t rfl]

/-- What is started and what is answered balance with the mark, if that was set for what is
answered. -/
theorem MarkStep.balance {answered : Option Task} {r : StartResult}
    (h : MarkStep mark sort s answered r)
    (hset : ∀ t, answered = some t → sort t = true → mark s = true) :
    r.2.toList.countP sort + (mark s).toNat
      = answered.toList.countP sort + (mark r.1).toNat := by
  cases h with
  | other hanswered hstarted hmark =>
      rw [countP_toList_eq_zero hanswered, countP_toList_eq_zero hstarted, hmark]
  | begins hanswered hstarted hsort hidle hmark =>
      rw [countP_toList_eq_zero hanswered, hstarted, hidle, hmark]
      simp [hsort]
  | goesOn hanswered hsort hstarted hfollows hmark =>
      rw [hanswered, hstarted, hmark]
      simp [hsort, hfollows]
  | @ends t hanswered hsort hstarted hmark =>
      rw [countP_toList_eq_zero hstarted, hmark, hset t hanswered hsort, hanswered]
      simp [hsort]

theorem countP_unanswered (sort : Task → Bool) {step : ConsoleStep}
    (hanswer : ∀ t, step.answered? = some t → t ∈ flight) :
    (unanswered flight step).countP sort + step.answered?.toList.countP sort
      = flight.countP sort := by
  unfold unanswered
  cases hstep : step.answered? with
  | none => rfl
  | some t =>
      have hmem : t ∈ flight := hanswer t hstep
      have hperm : flight.Perm (t :: flight.erase t) := List.perm_cons_erase hmem
      have hcount := hperm.countP_eq sort
      simp only [List.countP_cons, Option.toList_some, List.countP_nil] at hcount ⊢
      omega

namespace Guards

theorem flightAfter (guards : Guards mark sort) {step : ConsoleStep}
    (hanswer : ∀ t, step.answered? = some t → t ∈ flight)
    (h : flight.countP sort = (mark s).toNat) :
    (s.flightAfter flight step).countP sort = (mark (s.after step)).toNat := by
  -- an answer to a task of the sort comes while one is open, so the mark is set
  have hset : ∀ t, step.answered? = some t → sort t = true → mark s = true := by
    intro t ht hsort
    have hpos : 0 < flight.countP sort := List.countP_pos_iff.2 ⟨t, hanswer t ht, hsort⟩
    cases hs : mark s with
    | true => rfl
    | false =>
        rw [h, hs] at hpos
        exact absurd hpos (by decide)
  have hbalance : (s.started step).toList.countP sort + (mark s).toNat
      = step.answered?.toList.countP sort + (mark (s.after step)).toNat :=
    (guards s step).balance hset
  have hrest := countP_unanswered sort hanswer
  simp only [Console.flightAfter, List.countP_append]
  omega

theorem inFlight (guards : Guards mark sort) (h : flight.countP sort = (mark s).toNat)
    {steps : List ConsoleStep} (hgenuine : s.Genuine flight steps) :
    (s.inFlight flight steps).countP sort = (mark (s.run steps)).toNat :=
  genuine_induction (P := fun s flight => flight.countP sort = (mark s).toNat)
    (fun _ _ _ hanswer h => guards.flightAfter hanswer h) h hgenuine

/-- A task of the sort is started only when no other one stays open. -/
theorem none_open_of_started (guards : Guards mark sort)
    (h : flight.countP sort = (mark s).toNat) {step : ConsoleStep}
    (hanswer : ∀ t, step.answered? = some t → t ∈ flight) {t : Task}
    (hstarted : s.started step = some t) (hsort : sort t = true) :
    (unanswered flight step).countP sort = 0 := by
  have hafter := guards.flightAfter hanswer h
  have hle : (mark (s.after step)).toNat ≤ 1 := Bool.toNat_le _
  simp only [Console.flightAfter, hstarted, Option.toList_some, List.countP_append,
    List.countP_cons, List.countP_nil, hsort, if_true] at hafter
  omega

end Guards

end Marks

end Console

end StubConsole
