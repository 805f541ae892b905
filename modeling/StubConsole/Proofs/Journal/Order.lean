import StubConsole.JournalView
import StubConsole.Proofs.Journal.Instants

/-!
# Order — how the journal is sorted

The journal compares two logs that have a time by that time, forwards or backwards, and all others
by whether they have one.  The two rules together are one total preorder, so that sorting is stable
and puts every log in its place.

* `Instant.Before` — the order in time;
* `RequestLog.time?_eq_some_iff` — the time of a log is the instant that its timestamp names;
* `JournalView.InOrder` — one log may stand above another;
* `JournalView.filter_shown` — logs of one time stay as they were;
* `JournalView.shown_sorted` — what the journal shows, for every view.
-/

namespace StubConsole

namespace Instant

/-- Within a second, and so within a leap second, nanoseconds decide. -/
def Before (x y : Instant) : Prop :=
  x.seconds < y.seconds ∨ x.seconds = y.seconds ∧ x.nanos < y.nanos

instance : Std.TransCmp cmp :=
  inferInstanceAs (Std.TransCmp (compareLex (compareOn seconds) (compareOn nanos)))

theorem cmp_eq_gt_iff {x y : Instant} : x.cmp y = .gt ↔ y.Before x := by
  simp only [cmp, Before, Ordering.then_eq_gt, Int.compare_eq_gt, Int.compare_eq_eq,
    Nat.compare_eq_gt, eq_comm (a := x.seconds)]

theorem isLE_cmp_iff {x y : Instant} : (x.cmp y).isLE = true ↔ ¬ y.Before x := by
  rw [← Ordering.ne_gt_iff_isLE]
  exact not_congr cmp_eq_gt_iff

end Instant

namespace RequestLog

theorem time?_eq_some_iff {log : RequestLog} {x : Instant} :
    log.time? = some x ↔ Instant.Names log.timestamp x :=
  Instant.read?_eq_some_iff

theorem time?_eq_none_iff {log : RequestLog} :
    log.time? = none ↔ ¬ ∃ x, Instant.Names log.timestamp x := by
  simp only [Option.eq_none_iff_forall_ne_some, ne_eq, time?_eq_some_iff, not_exists]

end RequestLog

namespace JournalView

/-- The order of two logs that have a time. -/
def cmpDated : SortOrder → Instant → Instant → Ordering
  | .ascending, x, y => x.cmp y
  | .descending, x, y => y.cmp x

/-- A log may stand above another: none without a time above one that has one, and of two that
have one the earlier or the later as the order says. -/
structure InOrder (order : SortOrder) (a b : RequestLog) : Prop where
  undated : (¬ ∃ x, Instant.Names a.timestamp x) → ¬ ∃ y, Instant.Names b.timestamp y
  ascending : order = .ascending →
    ∀ x y, Instant.Names a.timestamp x → Instant.Names b.timestamp y → ¬ y.Before x
  descending : order = .descending →
    ∀ x y, Instant.Names a.timestamp x → Instant.Names b.timestamp y → ¬ x.Before y

/-! ## The comparison -/

section Comparison

variable {order : SortOrder} {a b c : RequestLog}

instance (order : SortOrder) : Std.TransCmp (cmpDated order) := by
  cases order with
  | ascending => exact inferInstanceAs (Std.TransCmp Instant.cmp)
  | descending => exact inferInstanceAs (Std.TransCmp fun x y => Instant.cmp y x)

theorem cmp_dated {x y : Instant} (ha : a.time? = some x) (hb : b.time? = some y) :
    cmp order a b = cmpDated order x y := by
  cases order <;> simp only [cmp, ha, hb, cmpDated]

theorem cmp_of_undated (h : a.time? = none ∨ b.time? = none) :
    cmp order a b = a.cmpTime b := by
  rcases h with h | h <;> simp [cmp, h]

theorem cmp_swap (order : SortOrder) (a b : RequestLog) :
    cmp order a b = (cmp order b a).swap := by
  cases ha : a.time? with
  | none =>
      rw [cmp_of_undated (.inl ha), cmp_of_undated (.inr ha)]
      cases hb : b.time? <;> simp [RequestLog.cmpTime, ha, hb]
  | some x =>
      cases hb : b.time? with
      | none =>
          rw [cmp_of_undated (.inr hb), cmp_of_undated (.inl hb)]
          simp [RequestLog.cmpTime, ha, hb]
      | some y =>
          rw [cmp_dated ha hb, cmp_dated hb ha]
          exact Std.OrientedCmp.eq_swap

/-- Logs without a time come after all others, whatever the order. -/
theorem isLE_cmp_iff :
    (cmp order a b).isLE = true ↔ (a.time? = none → b.time? = none) ∧
      ∀ x ∈ a.time?, ∀ y ∈ b.time?, (cmpDated order x y).isLE = true := by
  cases ha : a.time? with
  | none =>
      rw [cmp_of_undated (.inl ha)]
      cases hb : b.time? <;> simp [RequestLog.cmpTime, ha, hb]
  | some x =>
      cases hb : b.time? with
      | none =>
          rw [cmp_of_undated (.inr hb)]
          simp [RequestLog.cmpTime, ha, hb]
      | some y => simp [cmp_dated ha hb]

theorem isLE_cmp_trans (hab : (cmp order a b).isLE = true) (hbc : (cmp order b c).isLE = true) :
    (cmp order a c).isLE = true := by
  rw [isLE_cmp_iff] at hab hbc ⊢
  refine ⟨fun ha => hbc.1 (hab.1 ha), ?_⟩
  intro x hx z hz
  -- a log between two that have a time has one too
  cases hb : b.time? with
  | none => simp [hbc.1 hb] at hz
  | some y => exact Std.TransCmp.isLE_trans (hab.2 x hx y hb) (hbc.2 y hb z hz)

instance (order : SortOrder) : Std.TransCmp (cmp order) where
  eq_swap := cmp_swap order _ _
  isLE_trans := isLE_cmp_trans

theorem isLE_cmp_total (order : SortOrder) (a b : RequestLog) :
    ((cmp order a b).isLE || (cmp order b a).isLE) = true := by
  rw [cmp_swap order b a]
  cases cmp order a b <;> rfl

theorem isLE_cmp_of_time_eq (h : a.time? = b.time?) : (cmp order a b).isLE = true := by
  rw [isLE_cmp_iff, h]
  refine ⟨id, ?_⟩
  intro x hx y hy
  have hxy : x = y := Option.some.inj (hx.symm.trans hy)
  have hself : cmpDated order y y = .eq := Std.ReflCmp.compare_self
  rw [hxy, hself]
  rfl

theorem inOrder_of_isLE (h : (cmp order a b).isLE = true) : InOrder order a b := by
  rw [isLE_cmp_iff] at h
  refine ⟨?_, ?_, ?_⟩
  · rw [← RequestLog.time?_eq_none_iff, ← RequestLog.time?_eq_none_iff]
    exact h.1
  · rintro rfl x y hx hy
    exact Instant.isLE_cmp_iff.1
      (h.2 x (RequestLog.time?_eq_some_iff.2 hx) y (RequestLog.time?_eq_some_iff.2 hy))
  · rintro rfl x y hx hy
    exact Instant.isLE_cmp_iff.1
      (h.2 x (RequestLog.time?_eq_some_iff.2 hx) y (RequestLog.time?_eq_some_iff.2 hy))

end Comparison

/-! ## The logs shown -/

theorem pairwise_shown (v : JournalView) (logs : List RequestLog) :
    (v.shown logs).Pairwise (InOrder v.order) := by
  have hsorted : ((logs.filter v.matchesLog).mergeSort fun a b => (cmp v.order a b).isLE).Pairwise
      fun a b => (cmp v.order a b).isLE = true := by
    refine List.pairwise_mergeSort ?_ (isLE_cmp_total v.order) _
    exact fun _ _ _ => isLE_cmp_trans
  exact hsorted.imp inOrder_of_isLE

/-- Of the logs that match, those of one time, or those without one, are shown in the order that
they came in. -/
theorem filter_shown (v : JournalView) (logs : List RequestLog) (time : Option Instant) :
    (v.shown logs).filter (·.time? = time)
      = (logs.filter v.matchesLog).filter (·.time? = time) := by
  let found := logs.filter v.matchesLog
  let same := found.filter (·.time? = time)
  have hsame : same.Pairwise fun a b => (cmp v.order a b).isLE = true := by
    refine List.pairwise_of_forall_mem_list ?_
    intro a ha b hb
    have hatime : a.time? = time := of_decide_eq_true (List.mem_filter.1 ha).2
    have hbtime : b.time? = time := of_decide_eq_true (List.mem_filter.1 hb).2
    exact isLE_cmp_of_time_eq (hatime.trans hbtime.symm)
  have hsublist : same.Sublist (found.mergeSort fun a b => (cmp v.order a b).isLE) := by
    refine List.sublist_mergeSort ?_ (isLE_cmp_total v.order) hsame List.filter_sublist
    exact fun _ _ _ => isLE_cmp_trans
  have hfiltered : same.Sublist ((v.shown logs).filter (·.time? = time)) := by
    simpa [same, List.filter_filter, shown] using hsublist.filter (·.time? = time)
  -- sorting loses no log, so the two lists are of one length
  have hperm := (List.mergeSort_perm found fun a b => (cmp v.order a b).isLE).filter
    (·.time? = time)
  exact (hfiltered.eq_of_length hperm.length_eq.symm).symm

/-- The journal shows exactly the logs that match its filters, dated logs first and in the order
of their times, and logs of one time as they came in.  The time of a log is what its timestamp
names, and the order that is sorted by is a total preorder. -/
theorem shown_sorted (v : JournalView) (logs : List RequestLog) :
    (∀ (log : RequestLog) (x : Instant), log.time? = some x ↔ Instant.Names log.timestamp x)
      ∧ Std.TransCmp (cmp v.order)
      ∧ (v.shown logs).Perm (logs.filter v.matchesLog)
      ∧ (v.shown logs).Pairwise (InOrder v.order)
      ∧ ∀ time : Option Instant, (v.shown logs).filter (·.time? = time)
          = (logs.filter v.matchesLog).filter (·.time? = time) := by
  refine ⟨fun _ _ => RequestLog.time?_eq_some_iff, inferInstance, ?_, pairwise_shown v logs,
    filter_shown v logs⟩
  exact List.mergeSort_perm (logs.filter v.matchesLog) _

end JournalView

end StubConsole
