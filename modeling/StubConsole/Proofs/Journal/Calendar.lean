import StubConsole.Instant
import Mathlib.Algebra.BigOperators.Group.List.Basic
import Mathlib.Tactic.IntervalCases

/-!
# Calendar — the instant of a date

The days before a date are the days of the years before its year, of the months before its month,
and of the month before its day.  Counted so, or by the leap years that have passed, they are the
same.

* `Moment` — a date with a time of day, at an offset from universal time;
* `Moment.days`, `Moment.instant` — its day and its instant, counted;
* `Instant.daysSinceEpoch_eq`, `Instant.daysInMonth_eq` — the same by leap years.
-/

namespace StubConsole

structure Moment where
  year : Nat
  month : Nat
  day : Nat
  hour : Nat
  minute : Nat
  second : Nat
  nanos : Nat
  /-- Minutes that the clock is ahead of universal time. -/
  offset : Int

namespace Moment

/-- Every fourth year is a leap year; of the centuries, every fourth. -/
def monthLengths (year : Nat) : List Nat :=
  let february := if 400 ∣ year ∨ 4 ∣ year ∧ ¬ 100 ∣ year then 29 else 28
  [31, february, 31, 30, 31, 30, 31, 31, 30, 31, 30, 31]

def yearLength (year : Nat) : Nat := (monthLengths year).sum

/-- Days since the first of January of the year 0. -/
def days (m : Moment) : Nat :=
  ((List.range m.year).map yearLength).sum + ((monthLengths m.year).take (m.month - 1)).sum
    + (m.day - 1)

structure Valid (m : Moment) : Prop where
  month : 1 ≤ m.month ∧ m.month ≤ 12
  day : 1 ≤ m.day ∧ m.day ≤ (monthLengths m.year).getD (m.month - 1) 0
  hour : m.hour ≤ 23
  minute : m.minute ≤ 59
  /-- The second that is numbered 60 is a leap second. -/
  second : m.second ≤ 60

def epoch : Moment := ⟨1970, 1, 1, 0, 0, 0, 0, 0⟩

/-- A leap second goes on with the second before it. -/
def instant (m : Moment) : Instant where
  seconds := 86400 * ((m.days : Int) - epoch.days) + 3600 * m.hour + 60 * m.minute
    + min m.second 59 - 60 * m.offset
  nanos := m.nanos + if m.second = 60 then 1000000000 else 0

end Moment

namespace Instant

open Moment

theorem isLeapYear_eq (y : Nat) :
    isLeapYear y = decide (400 ∣ y ∨ 4 ∣ y ∧ ¬ 100 ∣ y) := by
  rw [isLeapYear, Bool.eq_iff_iff]
  simp only [Bool.and_eq_true, Bool.or_eq_true, decide_eq_true_eq]
  omega

theorem daysInMonth_eq {y m : Nat} (hm : 1 ≤ m ∧ m ≤ 12) :
    daysInMonth y m = (monthLengths y).getD (m - 1) 0 := by
  obtain ⟨hleast, hgreatest⟩ := hm
  interval_cases m
  all_goals simp [daysInMonth, monthLengths, isLeapYear_eq]

theorem daysBefore_eq (y : Nat) {k : Nat} (hk : k ≤ 12) :
    (List.range' 1 k).foldl (fun n i => n + daysInMonth y i) 0 = ((monthLengths y).take k).sum := by
  induction k with
  | zero => rfl
  | succ k ih =>
      have hlength : k < (monthLengths y).length := hk
      have hmonth : daysInMonth y (1 + k) = (monthLengths y)[k] := by
        rw [daysInMonth_eq (by omega), Nat.add_sub_cancel_left, List.getD,
          List.getElem?_eq_getElem hlength, Option.getD_some]
      rw [List.range'_concat, List.foldl_append, ih (Nat.le_of_succ_le hk),
        ← List.take_append_getElem hlength, List.sum_append, List.sum_singleton, Nat.one_mul,
        List.foldl_cons, List.foldl_nil, hmonth]

theorem yearLength_eq (y : Nat) :
    (yearLength y : Int) = 365 + ((y : Int) / 4 - (y - 1) / 4) - ((y : Int) / 100 - (y - 1) / 100)
      + ((y : Int) / 400 - (y - 1) / 400) := by
  simp only [yearLength, monthLengths, List.sum_cons, List.sum_nil]
  split <;> omega

/-- The leap years before a year, counted. -/
theorem sum_yearLength (y : Nat) :
    ((((List.range y).map yearLength).sum : Nat) : Int)
      = 365 * y + ((y : Int) - 1) / 4 - ((y : Int) - 1) / 100 + ((y : Int) - 1) / 400 + 1 := by
  induction y with
  | zero => rfl
  | succ y ih =>
      rw [List.sum_range_succ, Int.natCast_add, ih, yearLength_eq]
      omega

theorem daysSinceEpoch_eq (m : Moment) (hmonth : 1 ≤ m.month ∧ m.month ≤ 12) (hday : 1 ≤ m.day) :
    daysSinceEpoch m.year m.month m.day = (m.days : Int) - epoch.days := by
  have hepoch : epoch.days = 719528 := by decide +kernel
  have hyears := sum_yearLength m.year
  rw [hepoch]
  simp only [daysSinceEpoch, daysBefore_eq m.year (k := m.month - 1) (by omega), days,
    Int.fdiv_eq_ediv_of_nonneg _ (by decide : (0 : Int) ≤ 4),
    Int.fdiv_eq_ediv_of_nonneg _ (by decide : (0 : Int) ≤ 100),
    Int.fdiv_eq_ediv_of_nonneg _ (by decide : (0 : Int) ≤ 400)]
  omega

end Instant

end StubConsole
