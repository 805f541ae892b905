import StubConsole.Proofs.Decimal.Exact
import StubConsole.Proofs.Journal.Calendar
import StubConsole.Proofs.Text.Cuts

/-!
# Instants — what a time in the journal says

The time of a request is a number of milliseconds since 1970, or a date with a time of day and an
offset.  Either form is described here by its characters.  No text has both forms, so every text
names one instant at most, and it is read as that instant.

* `Instant.Numeral` — decimal digits and their value;
* `Instant.NamesMillis` — numbers;
* `Moment.Written` — dates;
* `Instant.Names` — the instant that a text names;
* `Instant.read?_eq_some_iff` — what is read is what is named.
-/

namespace StubConsole

open Text

namespace Instant

structure Numeral (digits : List Char) (n : Nat) : Prop where
  some : digits ≠ []
  all : ∀ c ∈ digits, c.isDigit = true
  value : n = Nat.ofDigitChars 10 digits 0

theorem numeral_iff {digits : List Char} {n : Nat} :
    Numeral digits n ↔ readDigits? digits = some n :=
  ⟨fun h => readDigits?_eq_some_iff.2 ⟨h.1, h.2, h.3⟩,
    fun h => let ⟨hne, hall, hvalue⟩ := readDigits?_eq_some_iff.1 h; ⟨hne, hall, hvalue⟩⟩

/-! ## Milliseconds -/

/-- A whole number of at most 53 bits names itself; any other number, with a point or an exponent,
the whole part of the double that is nearest to it. -/
inductive NamesMillis : List Char → Int → Prop where
  | plain {digits : List Char} {n : Nat} (h : Numeral digits n) (hlt : n < 2 ^ 53) :
      NamesMillis digits n
  | plus {digits : List Char} {n : Nat} (h : Numeral digits n) (hlt : n < 2 ^ 53) :
      NamesMillis ('+' :: digits) n
  | minus {digits : List Char} {n : Nat} (h : Numeral digits n) (hlt : n < 2 ^ 53) :
      NamesMillis ('-' :: digits) (-n)
  | double {text : List Char} {bits : UInt64}
      (h : Decimal.fraction? text = some (.finite bits)) :
      NamesMillis text (Decimal.truncate bits)

/-- So many milliseconds after 1970 begins. -/
structure AtMillis (x : Instant) (millis : Int) : Prop where
  inSecond : x.nanos < 1000000000
  whole : x.nanos % 1000000 = 0
  value : 1000 * x.seconds + (x.nanos / 1000000 : Nat) = millis

theorem ofMillis?_eq_some_iff {millis : Int} {x : Instant} :
    ofMillis? millis = some x ↔
      (leastMillis ≤ millis ∧ millis ≤ greatestMillis) ∧ x.AtMillis millis := by
  have hseconds : millis.fdiv 1000 = millis / 1000 :=
    Int.fdiv_eq_ediv_of_nonneg _ (by decide)
  have hrest : millis.fmod 1000 = millis % 1000 := Int.fmod_eq_emod_of_nonneg _ (by decide)
  rw [ofMillis?, hseconds, hrest, Option.ite_none_right_eq_some, Bool.and_eq_true,
    decide_eq_true_eq, decide_eq_true_eq, Option.some.injEq]
  refine and_congr_right fun _ => ?_
  constructor
  · rintro rfl
    refine ⟨?_, ?_, ?_⟩
    all_goals dsimp only
    all_goals omega
  · rintro ⟨hsecond, hwhole, hvalue⟩
    rcases x with ⟨seconds, nanos⟩
    dsimp only at hsecond hwhole hvalue
    congr 1
    all_goals omega

section Numbers

variable {digits rest text : List Char} {n : Nat}

theorem toNat_lt_of_isDigit {c : Char} (hc : c.isDigit = true) : c.toNat < 58 := by
  rw [Char.isDigit, Bool.and_eq_true, decide_eq_true_eq, decide_eq_true_eq] at hc
  exact Nat.lt_succ_of_le hc.2

theorem toLower_of_isDigit {c : Char} (hc : c.isDigit = true) : c.toLower = c := by
  have hall : ∀ n < 58, (Char.ofNat n).isDigit = true → (Char.ofNat n).toLower = Char.ofNat n := by
    decide
  have hlower := of_toNat_lt (P := fun d => d.isDigit = true → d.toLower = d) hall
    (toNat_lt_of_isDigit hc)
  exact hlower hc

/-- No number that starts with a digit is a word. -/
theorem lowerAscii_ne_word (h : Numeral digits n) {d : Char} {word : List Char}
    (hd : d.isDigit = false) : Decimal.lowerAscii (digits ++ rest) ≠ d :: word := by
  rcases List.exists_cons_of_ne_nil h.some with ⟨c, more, rfl⟩
  have hc : c.isDigit = true := h.all c List.mem_cons_self
  intro heq
  have hhead : c.toLower = d := (List.cons.inj heq).1
  rw [toLower_of_isDigit hc] at hhead
  exact ne_of_test hd hc hhead.symm

/-- Digits are read as such, whatever is behind them. -/
theorem readUnsigned?_numeral (negative : Bool) (h : Numeral digits n)
    (hrest : ∀ c ∈ rest.head?, c.isDigit = false ∧ c ≠ '.') :
    Decimal.readUnsigned? negative (digits ++ rest)
      = (Decimal.readExponent? rest).map fun e => Decimal.nearest negative n e := by
  have hwhole : (digits ++ rest).takeWhile Char.isDigit = digits :=
    takeWhile_cut h.all fun c hc => (hrest c hc).1
  have hbehind : (digits ++ rest).dropWhile Char.isDigit = rest :=
    dropWhile_cut h.all fun c hc => (hrest c hc).1
  have hinf : Decimal.lowerAscii (digits ++ rest) ≠ "inf".toList := lowerAscii_ne_word h rfl
  have hinfinity : Decimal.lowerAscii (digits ++ rest) ≠ "infinity".toList :=
    lowerAscii_ne_word h rfl
  have hnan : Decimal.lowerAscii (digits ++ rest) ≠ "nan".toList := lowerAscii_ne_word h rfl
  have hsome : digits.isEmpty = false := by simpa using h.some
  simp only [Decimal.readUnsigned?, hinf, hinfinity, hnan, decide_false, Bool.or_self,
    Bool.false_eq_true, if_false, hwhole, hbehind]
  -- a point would belong to the number
  cases rest with
  | nil => simp [hsome, ← h.value]
  | cons c more =>
      have hpoint : c ≠ '.' := (hrest c rfl).2
      simp [hsome, ← h.value, hpoint]

theorem readUnsigned?_whole (negative : Bool) (h : Numeral digits n) :
    Decimal.readUnsigned? negative digits = some (Decimal.nearest negative n 0) := by
  have hread : Decimal.readUnsigned? negative (digits ++ []) = _ :=
    readUnsigned?_numeral negative h fun c hc => nomatch hc
  rwa [List.append_nil] at hread

/-- A number without a sign. -/
theorem fraction?_of_numeral (h : Numeral digits n) (rest : List Char) :
    Decimal.fraction? (digits ++ rest) = Decimal.readUnsigned? false (digits ++ rest) := by
  rcases List.exists_cons_of_ne_nil h.some with ⟨c, more, rfl⟩
  have hc : c.isDigit = true := h.all c List.mem_cons_self
  have hplus : c ≠ '+' := fun heq => by simp [heq] at hc
  have hminus : c ≠ '-' := fun heq => by simp [heq] at hc
  simp [Decimal.fraction?, hplus, hminus]

/-- Whatever starts like a date is no number. -/
theorem fraction?_dash (h : Numeral digits n) (rest : List Char) :
    Decimal.fraction? (digits ++ '-' :: rest) = none := by
  rw [fraction?_of_numeral h, readUnsigned?_numeral false h (by simp)]
  rfl

/-- What a number names is its value, rounded to a double, without what is behind the point. -/
theorem exists_fraction?_iff {millis : Int} :
    (∃ bits, Decimal.fraction? text = some (.finite bits) ∧ Decimal.truncate bits = millis)
      ↔ NamesMillis text millis := by
  constructor
  · rintro ⟨bits, hread, rfl⟩
    exact .double hread
  · intro hnames
    cases hnames with
    | @plain digits n h hlt =>
        rcases Decimal.nearest_whole false hlt with ⟨bits, hnearest, hvalue⟩
        have hread := fraction?_of_numeral h []
        rw [List.append_nil, readUnsigned?_whole false h, hnearest] at hread
        exact ⟨bits, hread, hvalue⟩
    | @plus digits n h hlt =>
        rcases Decimal.nearest_whole false hlt with ⟨bits, hnearest, hvalue⟩
        refine ⟨bits, ?_, hvalue⟩
        rw [Decimal.fraction?, readUnsigned?_whole false h, hnearest]
    | @minus digits n h hlt =>
        rcases Decimal.nearest_whole true hlt with ⟨bits, hnearest, hvalue⟩
        refine ⟨bits, ?_, hvalue⟩
        rw [Decimal.fraction?, readUnsigned?_whole true h, hnearest]
    | double hread => exact ⟨_, hread, rfl⟩

end Numbers

/-! ## Parts of dates -/

/-- Exactly so many digits, and their value. -/
structure Digits (width : Nat) (digits : List Char) (n : Nat) : Prop extends Numeral digits n where
  length_eq : digits.length = width

/-- The nanoseconds behind the seconds: nothing, or a point and any number of digits, of which
those behind the ninth are too fine. -/
inductive WritesNanos : List Char → Nat → Prop where
  | none : WritesNanos [] 0
  | some {digits : List Char} {n : Nat} (h : Numeral digits n) :
      WritesNanos ('.' :: digits) (n * 10 ^ 9 / 10 ^ digits.length)

/-- The offset from universal time: none, or hours and minutes ahead of it or behind. -/
inductive WritesOffset : List Char → Int → Prop where
  | universal {c : Char} (hc : c = 'Z' ∨ c = 'z') : WritesOffset [c] 0
  | ahead {hour minute : List Char} {hours minutes : Nat} (hhour : Digits 2 hour hours)
      (hminute : Digits 2 minute minutes) (hhours : hours ≤ 23) (hminutes : minutes ≤ 59) :
      WritesOffset ('+' :: (hour ++ ':' :: minute)) (60 * hours + minutes)
  | behind {c : Char} {hour minute : List Char} {hours minutes : Nat}
      (hc : c = '-' ∨ c = '\u2212') (hhour : Digits 2 hour hours)
      (hminute : Digits 2 minute minutes) (hhours : hours ≤ 23) (hminutes : minutes ≤ 59) :
      WritesOffset (c :: (hour ++ ':' :: minute)) (-(60 * hours + minutes))

section Parts

variable {s rest : List Char} {n : Nat}

theorem fixedDigits?_eq_some_iff {width : Nat} (hwidth : 0 < width) :
    fixedDigits? width s = some (n, rest)
      ↔ ∃ digits, Digits width digits n ∧ s = digits ++ rest := by
  constructor
  · intro h
    rw [fixedDigits?, Option.ite_none_right_eq_some, Option.map_eq_some_iff] at h
    rcases h with ⟨hlength, m, hread, hpair⟩
    obtain ⟨rfl, rfl⟩ := Prod.mk.inj hpair
    exact ⟨_, ⟨numeral_iff.2 hread, hlength⟩, (List.take_append_drop width s).symm⟩
  · rintro ⟨digits, ⟨hnumeral, rfl⟩, rfl⟩
    rw [fixedDigits?, List.take_left, List.drop_left, if_pos rfl, numeral_iff.1 hnumeral]
    rfl

theorem expect?_eq_some_iff {ok : Char → Bool} :
    expect? ok s = some rest ↔ ∃ c, ok c = true ∧ s = c :: rest := by
  cases s with
  | nil => simp [expect?]
  | cons c more =>
      rw [expect?, Option.ite_none_right_eq_some, Option.some.injEq]
      constructor
      · rintro ⟨hc, rfl⟩
        exact ⟨c, hc, rfl⟩
      · rintro ⟨d, hd, heq⟩
        obtain ⟨rfl, rfl⟩ := List.cons.inj heq
        exact ⟨hd, rfl⟩

theorem ofDigitChars_lt {digits : List Char} (hall : ∀ c ∈ digits, c.isDigit = true) :
    Nat.ofDigitChars 10 digits 0 < 10 ^ digits.length := by
  induction digits with
  | nil => decide
  | cons c digits ih =>
      have hlt := ih fun d hd => hall d (List.mem_cons_of_mem c hd)
      have hdigit : c.toNat - '0'.toNat ≤ 9 := by
        have hc := toNat_lt_of_isDigit (hall c List.mem_cons_self)
        change c.toNat - 48 ≤ 9
        omega
      have hhigh := Nat.mul_le_mul_left (10 ^ digits.length) hdigit
      rw [Nat.ofDigitChars_cons, Nat.mul_zero, Nat.zero_add,
        Nat.ofDigitChars_eq_ofDigitChars_zero, List.length_cons, Nat.pow_succ]
      omega

/-- Nine digits are nanoseconds, and digits behind them are cut off. -/
theorem nanos_eq {digits : List Char} (h : Numeral digits n) :
    Nat.ofDigitChars 10 (digits.take 9) 0 * Nat.pow 10 (9 - (digits.take 9).length)
      = n * 10 ^ 9 / 10 ^ digits.length := by
  rw [h.value]
  by_cases hshort : digits.length ≤ 9
  · have hpow : 10 ^ 9 = 10 ^ (9 - digits.length) * 10 ^ digits.length := by
      rw [← Nat.pow_add, Nat.sub_add_cancel hshort]
    rw [List.take_of_length_le hshort, hpow, ← Nat.mul_assoc,
      Nat.mul_div_cancel _ (Nat.pow_pos (by decide))]
    rfl
  · have htaken : (digits.take 9).length = 9 := by
      rw [List.length_take]
      omega
    have hvalue : Nat.ofDigitChars 10 digits 0
        = 10 ^ (digits.drop 9).length * Nat.ofDigitChars 10 (digits.take 9) 0
          + Nat.ofDigitChars 10 (digits.drop 9) 0 := by
      rw [← Nat.ofDigitChars_eq_ofDigitChars_zero, ← Nat.ofDigitChars_append,
        List.take_append_drop]
    have hlow : Nat.ofDigitChars 10 (digits.drop 9) 0 < 10 ^ (digits.drop 9).length :=
      ofDigitChars_lt fun c hc => h.all c (List.mem_of_mem_drop hc)
    have hpow : 10 ^ digits.length = 10 ^ 9 * 10 ^ (digits.drop 9).length := by
      rw [← Nat.pow_add, List.length_drop]
      congr 1
      omega
    rw [hvalue, hpow, htaken, Nat.mul_comm _ (10 ^ 9), Nat.mul_div_mul_left _ _ (by decide),
      Nat.mul_add_div (Nat.pow_pos (by decide)), Nat.div_eq_of_lt hlow, Nat.add_zero]
    exact Nat.mul_one _

theorem fractionDigits?_append {fraction : List Char} (h : WritesNanos fraction n)
    (hrest : ∀ c ∈ rest.head?, c.isDigit = false ∧ c ≠ '.') :
    fractionDigits? (fraction ++ rest) = some (n, rest) := by
  cases h with
  | none =>
      rw [List.nil_append]
      cases rest with
      | nil => rfl
      | cons c more =>
          have hpoint : c ≠ '.' := (hrest c rfl).2
          simp [fractionDigits?, hpoint]
  | @some digits value h =>
      have hdigits : (digits ++ rest).takeWhile Char.isDigit = digits :=
        takeWhile_cut h.all fun c hc => (hrest c hc).1
      have hbehind : (digits ++ rest).dropWhile Char.isDigit = rest :=
        dropWhile_cut h.all fun c hc => (hrest c hc).1
      have hsome : (digits.take 9).isEmpty = false := by simpa using h.some
      rw [List.cons_append]
      simp only [fractionDigits?, hdigits, hbehind, hsome, nanos_eq h, Bool.false_eq_true, if_false]

theorem exists_writesNanos (h : fractionDigits? s = some (n, rest)) :
    ∃ fraction, WritesNanos fraction n ∧ s = fraction ++ rest := by
  unfold fractionDigits? at h
  split at h
  next tail =>
    simp only [Option.ite_none_left_eq_some, Option.some.injEq, Prod.mk.injEq] at h
    rcases h with ⟨hsome, rfl, rfl⟩
    have hnumeral : Numeral (tail.takeWhile Char.isDigit) _ :=
      ⟨fun hnil => hsome (by simp [hnil]), fun c hc => List.mem_takeWhile_imp hc, rfl⟩
    refine ⟨'.' :: tail.takeWhile Char.isDigit, nanos_eq hnumeral ▸ .some hnumeral, ?_⟩
    rw [List.cons_append, List.takeWhile_append_dropWhile]
  next =>
    obtain ⟨rfl, rfl⟩ := Prod.mk.inj (Option.some.inj h)
    exact ⟨[], .none, rfl⟩

/-- A sign, then hours and minutes, which end the text. -/
theorem offset?_sign_iff {c : Char} {offset : Int} (hc : c = '+' ∨ c = '-' ∨ c = '\u2212') :
    offset? (c :: s) = some offset ↔
      ∃ hour minute hours minutes, Digits 2 hour hours ∧ Digits 2 minute minutes ∧ hours ≤ 23 ∧
        minutes ≤ 59 ∧ s = hour ++ ':' :: minute ∧
        offset = if c = '+' then (60 * hours + minutes : Int) else -(60 * hours + minutes) := by
  have huniversal : (c = 'Z' || c = 'z') = false := by
    rcases hc with rfl | rfl | rfl
    all_goals rfl
  have hsign : (c = '+' || c = '-' || c = Char.ofNat 0x2212) = true := by
    rcases hc with rfl | rfl | rfl
    all_goals rfl
  simp only [offset?, huniversal, hsign, Bool.false_eq_true, if_false, if_true,
    Option.bind_eq_bind, Option.bind_eq_some_iff, Prod.exists,
    fixedDigits?_eq_some_iff (by decide : 0 < 2), expect?_eq_some_iff, decide_eq_true_eq]
  constructor
  · rintro ⟨hours, -, ⟨hour, hhour, rfl⟩, -, ⟨-, rfl, rfl⟩, minutes, rest,
      ⟨minute, hminute, rfl⟩, h⟩
    simp only [Option.ite_none_left_eq_some, Bool.or_eq_true, Bool.not_eq_true',
      decide_eq_true_eq, not_or, Bool.not_eq_false, List.isEmpty_iff, Nat.not_lt, pure,
      Option.some.injEq] at h
    rcases h with ⟨⟨⟨rfl, hhours⟩, hminutes⟩, rfl⟩
    exact ⟨hour, minute, hours, minutes, hhour, hminute, hhours, hminutes, by simp, rfl⟩
  · rintro ⟨hour, minute, hours, minutes, hhour, hminute, hhours, hminutes, rfl, rfl⟩
    refine ⟨hours, _, ⟨hour, hhour, rfl⟩, _, ⟨_, rfl, rfl⟩, minutes, [],
      ⟨minute, hminute, (List.append_nil _).symm⟩, ?_⟩
    simp [Nat.not_lt.2 hhours, Nat.not_lt.2 hminutes]

theorem offset?_eq_some_iff {offset : Int} : offset? s = some offset ↔ WritesOffset s offset := by
  constructor
  · intro h
    cases s with
    | nil => cases h
    | cons c rest =>
        by_cases hsign : c = '+' ∨ c = '-' ∨ c = '\u2212'
        · rw [offset?_sign_iff hsign] at h
          rcases h with ⟨hour, minute, hours, minutes, hhour, hminute, hhours, hminutes, rfl, rfl⟩
          by_cases hplus : c = '+'
          · rw [if_pos hplus, hplus]
            exact .ahead hhour hminute hhours hminutes
          · rw [if_neg hplus]
            exact .behind (hsign.resolve_left hplus) hhour hminute hhours hminutes
        · have hnone : (c = '+' || c = '-' || c = Char.ofNat 0x2212) = false := by
            rw [← Bool.not_eq_true]
            intro htrue
            simp only [Bool.or_eq_true, decide_eq_true_eq, or_assoc] at htrue
            exact hsign htrue
          simp only [offset?, hnone, Bool.false_eq_true, if_false, Option.ite_none_right_eq_some,
            List.isEmpty_iff, Option.some.injEq, Bool.or_eq_true, decide_eq_true_eq] at h
          rcases h with ⟨hc, rfl, rfl⟩
          exact .universal hc
  · intro h
    cases h with
    | universal hc => rcases hc with rfl | rfl <;> rfl
    | ahead hhour hminute hhours hminutes =>
        exact (offset?_sign_iff (.inl rfl)).2
          ⟨_, _, _, _, hhour, hminute, hhours, hminutes, rfl, rfl⟩
    | behind hc hhour hminute hhours hminutes =>
        refine (offset?_sign_iff (.inr hc)).2
          ⟨_, _, _, _, hhour, hminute, hhours, hminutes, rfl, ?_⟩
        rw [if_neg]
        rcases hc with rfl | rfl
        all_goals decide

end Parts

end Instant

/-! ## Dates -/

open Instant

/-- The date as it is written: year, month and day, a letter or a blank, then hours, minutes and
seconds, and the offset. -/
inductive Moment.Written (m : Moment) : List Char → Prop where
  | intro {year month day hour minute second nanos offset : List Char} {c : Char}
      (hyear : Digits 4 year m.year) (hmonth : Digits 2 month m.month) (hday : Digits 2 day m.day)
      (hc : c = 'T' ∨ c = 't' ∨ c = ' ') (hhour : Digits 2 hour m.hour)
      (hminute : Digits 2 minute m.minute) (hsecond : Digits 2 second m.second)
      (hnanos : WritesNanos nanos m.nanos) (hoffset : WritesOffset offset m.offset) :
      Written m (year ++ '-' :: month ++ '-' :: day ++ c :: hour ++ ':' :: minute ++ ':' :: second
        ++ nanos ++ offset)

namespace Instant

variable {s : List Char} {x : Instant}

theorem head?_of_writesOffset {offset : Int} (h : WritesOffset s offset) :
    ∀ c ∈ s.head?, c.isDigit = false ∧ c ≠ '.' := by
  cases h with
  | universal hc => rcases hc with rfl | rfl <;> simp
  | ahead => simp
  | behind hc => rcases hc with rfl | rfl <;> simp

/-- The instant of the parts of a date, unless they are out of range. -/
def ofMoment? (m : Moment) : Option Instant :=
  if m.month < 1 || m.month > 12 || m.day < 1 || m.day > daysInMonth m.year m.month then none
  else if m.hour > 23 || m.minute > 59 || m.second > 60 then none
  else
    let seconds := daysSinceEpoch m.year m.month m.day * 86400 + m.hour * 3600 + m.minute * 60
      + min m.second 59 - 60 * m.offset
    some ⟨seconds, if m.second = 60 then m.nanos + 1000000000 else m.nanos⟩

theorem ofMoment?_eq_some_iff {m : Moment} :
    ofMoment? m = some x ↔ m.Valid ∧ x = m.instant := by
  have hvalid : m.Valid ↔
      ¬ (m.month < 1 || m.month > 12 || m.day < 1 || m.day > daysInMonth m.year m.month) = true ∧
        ¬ (m.hour > 23 || m.minute > 59 || m.second > 60) = true := by
    simp only [Bool.or_eq_true, decide_eq_true_eq, not_or, Nat.not_lt]
    constructor
    · intro h
      exact ⟨⟨⟨⟨h.month.1, h.month.2⟩, h.day.1⟩, daysInMonth_eq h.month ▸ h.day.2⟩,
        ⟨h.hour, h.minute⟩, h.second⟩
    · rintro ⟨⟨⟨⟨hleast, hgreatest⟩, hfirst⟩, hlast⟩, ⟨hhour, hminute⟩, hsecond⟩
      rw [daysInMonth_eq ⟨hleast, hgreatest⟩] at hlast
      exact ⟨⟨hleast, hgreatest⟩, ⟨hfirst, hlast⟩, hhour, hminute, hsecond⟩
  rw [ofMoment?, Option.ite_none_left_eq_some, Option.ite_none_left_eq_some, ← and_assoc, ← hvalid]
  refine and_congr_right fun h => ?_
  have hinstant : m.instant = ⟨daysSinceEpoch m.year m.month m.day * 86400 + m.hour * 3600
      + m.minute * 60 + min m.second 59 - 60 * m.offset,
      if m.second = 60 then m.nanos + 1000000000 else m.nanos⟩ := by
    rw [Moment.instant, daysSinceEpoch_eq m h.month h.day.1, Instant.mk.injEq]
    refine ⟨by omega, ?_⟩
    split
    · rfl
    · rfl
  rw [hinstant, Option.some.injEq, eq_comm]

section Steps

variable {α : Type} {y : α}

/-- The step of a reader that reads digits. -/
theorem bind_fixedDigits?_iff {width : Nat} (hwidth : 0 < width) {f : Nat × List Char → Option α} :
    (fixedDigits? width s >>= f) = some y ↔
      ∃ digits n rest, Digits width digits n ∧ s = digits ++ rest ∧ f (n, rest) = some y := by
  rw [Option.bind_eq_bind, Option.bind_eq_some_iff]
  constructor
  · rintro ⟨⟨n, rest⟩, hread, hrest⟩
    rcases (fixedDigits?_eq_some_iff hwidth).1 hread with ⟨digits, hdigits, hs⟩
    exact ⟨digits, n, rest, hdigits, hs, hrest⟩
  · rintro ⟨digits, n, rest, hdigits, hs, hrest⟩
    exact ⟨(n, rest), (fixedDigits?_eq_some_iff hwidth).2 ⟨digits, hdigits, hs⟩, hrest⟩

/-- The step of a reader that reads one character. -/
theorem bind_expect?_iff {ok : Char → Bool} {f : List Char → Option α} :
    (expect? ok s >>= f) = some y ↔
      ∃ c rest, ok c = true ∧ s = c :: rest ∧ f rest = some y := by
  rw [Option.bind_eq_bind, Option.bind_eq_some_iff]
  constructor
  · rintro ⟨rest, hread, hrest⟩
    rcases expect?_eq_some_iff.1 hread with ⟨c, hc, hs⟩
    exact ⟨c, rest, hc, hs, hrest⟩
  · rintro ⟨c, rest, hc, hs, hrest⟩
    exact ⟨rest, expect?_eq_some_iff.2 ⟨c, hc, hs⟩, hrest⟩

end Steps

theorem ofCalendar?_eq_some_iff :
    ofCalendar? s = some x ↔ ∃ m : Moment, m.Written s ∧ ofMoment? m = some x := by
  have hfour : 0 < 4 := by decide
  have htwo : 0 < 2 := by decide
  constructor
  · intro h
    unfold ofCalendar? at h
    rcases (bind_fixedDigits?_iff hfour).1 h with ⟨year, y, s, hyear, rfl, h₁⟩
    rcases bind_expect?_iff.1 h₁ with ⟨c, s, hc, rfl, h₂⟩
    obtain rfl : c = '-' := of_decide_eq_true hc
    rcases (bind_fixedDigits?_iff htwo).1 h₂ with ⟨month, mo, s, hmonth, rfl, h₃⟩
    rcases bind_expect?_iff.1 h₃ with ⟨c, s, hc, rfl, h₄⟩
    obtain rfl : c = '-' := of_decide_eq_true hc
    rcases (bind_fixedDigits?_iff htwo).1 h₄ with ⟨day, d, s, hday, rfl, h₅⟩
    rcases bind_expect?_iff.1 h₅ with ⟨c, s, hsep, rfl, h₆⟩
    rcases (bind_fixedDigits?_iff htwo).1 h₆ with ⟨hour, ho, s, hhour, rfl, h₇⟩
    rcases bind_expect?_iff.1 h₇ with ⟨c', s, hc, rfl, h₈⟩
    obtain rfl : c' = ':' := of_decide_eq_true hc
    rcases (bind_fixedDigits?_iff htwo).1 h₈ with ⟨minute, mi, s, hminute, rfl, h₉⟩
    rcases bind_expect?_iff.1 h₉ with ⟨c', s, hc, rfl, h₁₀⟩
    obtain rfl : c' = ':' := of_decide_eq_true hc
    rcases (bind_fixedDigits?_iff htwo).1 h₁₀ with ⟨second, se, s, hsecond, rfl, h₁₁⟩
    rcases Option.bind_eq_some_iff.1 h₁₁ with ⟨⟨n, s⟩, hfraction, h₁₂⟩
    rcases exists_writesNanos hfraction with ⟨nanos, hnanos, rfl⟩
    rcases Option.bind_eq_some_iff.1 h₁₂ with ⟨o, hoffset, h₁₃⟩
    have hwritten := Moment.Written.intro (m := ⟨y, mo, d, ho, mi, se, n, o⟩) hyear hmonth hday
      (by simpa [or_assoc] using hsep) hhour hminute hsecond hnanos (offset?_eq_some_iff.1 hoffset)
    refine ⟨⟨y, mo, d, ho, mi, se, n, o⟩, ?_, h₁₃⟩
    simpa only [List.append_assoc, List.cons_append] using hwritten
  · rintro ⟨m, hwritten, hx⟩
    cases hwritten with
    | @intro year month day hour minute second nanos offset c hyear hmonth hday hc hhour hminute
        hsecond hnanos hoffset =>
      have hsep : (decide (c = 'T') || decide (c = 't') || decide (c = ' ')) = true := by
        simpa [or_assoc] using hc
      simp only [List.append_assoc, List.cons_append]
      unfold ofCalendar?
      refine (bind_fixedDigits?_iff hfour).2 ⟨year, _, _, hyear, rfl, ?_⟩
      refine bind_expect?_iff.2 ⟨'-', _, rfl, rfl, ?_⟩
      refine (bind_fixedDigits?_iff htwo).2 ⟨month, _, _, hmonth, rfl, ?_⟩
      refine bind_expect?_iff.2 ⟨'-', _, rfl, rfl, ?_⟩
      refine (bind_fixedDigits?_iff htwo).2 ⟨day, _, _, hday, rfl, ?_⟩
      refine bind_expect?_iff.2 ⟨c, _, hsep, rfl, ?_⟩
      refine (bind_fixedDigits?_iff htwo).2 ⟨hour, _, _, hhour, rfl, ?_⟩
      refine bind_expect?_iff.2 ⟨':', _, rfl, rfl, ?_⟩
      refine (bind_fixedDigits?_iff htwo).2 ⟨minute, _, _, hminute, rfl, ?_⟩
      refine bind_expect?_iff.2 ⟨':', _, rfl, rfl, ?_⟩
      refine (bind_fixedDigits?_iff htwo).2 ⟨second, _, _, hsecond, rfl, ?_⟩
      have hfraction := fractionDigits?_append hnanos (head?_of_writesOffset hoffset)
      refine Option.bind_eq_some_iff.2 ⟨(m.nanos, offset), hfraction, ?_⟩
      exact Option.bind_eq_some_iff.2 ⟨m.offset, offset?_eq_some_iff.2 hoffset, hx⟩

/-! ## Both forms -/

/-- The instant that a text names, blanks at its ends aside. -/
inductive Names (text : String) (x : Instant) : Prop where
  | millis {millis : Int} (htext : NamesMillis (trimChars text.toList) millis)
      (hreach : leastMillis ≤ millis ∧ millis ≤ greatestMillis) (hx : x.AtMillis millis)
  | date {m : Moment} (htext : m.Written (trimChars text.toList)) (hvalid : m.Valid)
      (hx : x = m.instant)

theorem fraction?_of_written {m : Moment} (h : m.Written s) : Decimal.fraction? s = none := by
  cases h with
  | intro hyear =>
      simp only [List.append_assoc, List.cons_append]
      exact fraction?_dash hyear.toNumeral _

/-- A text is read as the instant that it names, and a text that names none is not read. -/
theorem read?_eq_some_iff {text : String} : read? text = some x ↔ Names text x := by
  constructor
  · intro h
    simp only [read?] at h
    split at h
    next bits hread =>
      rcases ofMillis?_eq_some_iff.1 h with ⟨hreach, hx⟩
      exact .millis (.double hread) hreach hx
    next => cases h
    next =>
      rcases ofCalendar?_eq_some_iff.1 h with ⟨m, hwritten, hmoment⟩
      rcases ofMoment?_eq_some_iff.1 hmoment with ⟨hvalid, hx⟩
      exact .date hwritten hvalid hx
  · intro h
    cases h with
    | millis htext hreach hx =>
        rcases exists_fraction?_iff.2 htext with ⟨bits, hread, rfl⟩
        simpa only [read?, hread] using ofMillis?_eq_some_iff.2 ⟨hreach, hx⟩
    | date htext hvalid hx =>
        have hmoment := ofMoment?_eq_some_iff.2 ⟨hvalid, hx⟩
        simpa only [read?, fraction?_of_written htext] using
          ofCalendar?_eq_some_iff.2 ⟨_, htext, hmoment⟩

/-- Milliseconds and dates with an offset name the same instants. -/
example : read? "1704103200500" = read? "2024-01-01T12:00:00.5+02:00" := by decide +kernel

end Instant

end StubConsole
