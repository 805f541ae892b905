/-!
# Integer — decimal whole numbers in texts

A number the user types may carry leading zeros and a plus sign, and a minus sign where the
type is signed; blanks and digit separators are refused, and so is a value out of range.
-/

namespace StubConsole

namespace Text

/-! ## Reading -/

/-- Digits only, and at least one. -/
def readDigits? (s : List Char) : Option Nat :=
  if s.isEmpty || !s.all Char.isDigit then none else some (Nat.ofDigitChars 10 s 0)

/-- A whole number of at most `max`, with an optional plus sign. -/
def natUpTo? (max : Nat) (s : List Char) : Option Nat :=
  let digits := match s with
    | '+' :: rest => rest
    | _ => s
  (readDigits? digits).filter (· ≤ max)

/-- A whole number between `min` and `max`, with an optional sign. -/
def intBetween? (min max : Int) (s : List Char) : Option Int :=
  let value := match s with
    | '+' :: rest => (readDigits? rest).map Int.ofNat
    | '-' :: rest => (readDigits? rest).map fun n => -Int.ofNat n
    | _ => (readDigits? s).map Int.ofNat
  value.filter fun n => min ≤ n && n ≤ max

/-! ## Printing -/

def decimal (n : Nat) : List Char :=
  Nat.toDigits 10 n

def decimalInt (n : Int) : List Char :=
  if n < 0 then '-' :: decimal n.natAbs else decimal n.natAbs

def ofNat (n : Nat) : String :=
  String.ofList (decimal n)

def ofInt (n : Int) : String :=
  String.ofList (decimalInt n)

/-- The digits of `n`, with zeros in front up to `width` places. -/
def padded (width n : Nat) : List Char :=
  List.replicate (width - (decimal n).length) '0' ++ decimal n

/-! ## Digits read back -/

theorem decimal_ne_nil (n : Nat) : decimal n ≠ [] :=
  Nat.toDigits_ne_nil

theorem isDigit_of_mem_decimal {c : Char} {n : Nat} (h : c ∈ decimal n) : c.isDigit :=
  Nat.isDigit_of_mem_toDigits (by decide) (by decide) h

theorem readDigits?_eq_some_iff {s : List Char} {n : Nat} :
    readDigits? s = some n ↔
      s ≠ [] ∧ (∀ c ∈ s, c.isDigit = true) ∧ n = Nat.ofDigitChars 10 s 0 := by
  unfold readDigits?
  split
  next hrefused =>
    have hempty : s = [] ∨ ∃ c ∈ s, c.isDigit = false := by simpa using hrefused
    refine iff_of_false nofun ?_
    rintro ⟨hne, hall, -⟩
    rcases hempty with rfl | ⟨c, hc, hdigit⟩
    · exact hne rfl
    · rw [hall c hc] at hdigit
      cases hdigit
  next haccepted =>
    have hsome : s ≠ [] ∧ ∀ c ∈ s, c.isDigit = true := by simpa using haccepted
    simp only [Option.some.injEq, eq_comm (b := n)]
    exact ⟨fun h => ⟨hsome.1, hsome.2, h⟩, fun h => h.2.2⟩

theorem readDigits?_decimal (n : Nat) : readDigits? (decimal n) = some n := by
  have hall : (decimal n).all Char.isDigit = true :=
    List.all_eq_true.2 fun _ hc => isDigit_of_mem_decimal hc
  have hne : (decimal n).isEmpty = false := by
    simpa using decimal_ne_nil n
  have hvalue : Nat.ofDigitChars 10 (decimal n) 0 = n :=
    Nat.ofDigitChars_toDigits (by decide) (by decide)
  rw [readDigits?, hall, hne, hvalue]
  rfl

theorem natUpTo?_decimal {max n : Nat} (h : n ≤ max) : natUpTo? max (decimal n) = some n := by
  have hread := readDigits?_decimal n
  rcases List.exists_cons_of_ne_nil (decimal_ne_nil n) with ⟨c, rest, hdecimal⟩
  have hdigit : c.isDigit = true := isDigit_of_mem_decimal (n := n) (by simp [hdecimal])
  rw [hdecimal] at hread ⊢
  unfold natUpTo?
  split
  next heq =>
    cases heq
    exact absurd hdigit (by decide)
  next => simp [hread, h]

end Text

end StubConsole
