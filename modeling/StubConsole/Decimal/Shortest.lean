/-!
# Shortest — the fewest decimal digits that name a binary number

A finite double is `m · 2 ^ q`.  The reals that round to it form an interval around it, whose ends
belong to it exactly when `m` is even.  Its shortest decimal is the point of the coarsest decimal
grid that lies in the interval; of two such points the nearer one is taken, and of two equally
near ones the one with the even last digit.

* `Binary` — a positive double as significand and exponent, with the gap below it;
* `Binary.ofBits?` — the decoding of the 64 bits;
* `shortest` — the digits and the decimal exponent of the last digit.
-/

namespace StubConsole

namespace Decimal

/-- The positive number `significand · 2 ^ exponent`; `narrowBelow` says that the double just
below is only half a unit away. -/
structure Binary where
  significand : Nat
  exponent : Int
  narrowBelow : Bool
  deriving DecidableEq, Repr

namespace Binary

/-- The leading bit of a significand, which the bits of a double leave out. -/
def hiddenBit : Nat := 0x10000000000000

/-- Sign and magnitude of a double, nothing for infinities and NaN.  Zero has significand 0. -/
def ofBits? (bits : UInt64) : Option (Bool × Binary) :=
  let n := bits.toNat
  let negative := n >>> 63 == 1
  let biased : Nat := (n >>> 52) % 2048
  let fraction : Nat := n % hiddenBit
  -- all exponent bits set: infinities and NaN; none set: numbers without the hidden bit
  if biased == 2047 then none
  else if biased == 0 then some (negative, ⟨fraction, -1074, false⟩)
  else some (negative, ⟨hiddenBit + fraction, (biased : Int) - 1075, fraction == 0 && biased > 1⟩)

end Binary

/-! ## The interval -/

/-- A fraction `num / den` of naturals. -/
structure Ratio where
  num : Nat
  den : Nat
  deriving DecidableEq, Repr

def Ratio.scale (r : Ratio) (base : Nat) (e : Int) : Ratio :=
  if e ≥ 0 then ⟨r.num * base.pow e.toNat, r.den⟩ else ⟨r.num, r.den * base.pow (-e).toNat⟩

/-- The value, and the two ends of the interval of reals that round to it. -/
def bounds (b : Binary) : Ratio × Ratio × Ratio :=
  let m := b.significand
  let quarter := fun (n : Nat) => Ratio.scale ⟨n, 4⟩ 2 b.exponent
  -- half a step to each side, but only a quarter below a power of two
  (quarter (4 * m), quarter (4 * m - if b.narrowBelow then 1 else 2), quarter (4 * m + 2))

/-- `k · 10 ^ e` lies between the ends. -/
def inside (closed : Bool) (low high : Ratio) (k : Nat) (e : Int) : Bool :=
  let x := Ratio.scale ⟨k, 1⟩ 10 e
  let below := x.num * low.den
  let least := low.num * x.den
  let above := x.num * high.den
  let greatest := high.num * x.den
  -- the ends themselves round to an even significand
  if closed then least ≤ below && above ≤ greatest else least < below && above < greatest

/-- Doubled distance comparison: is the value nearer to `k`, to `k + 1`, or in the middle,
counted in units of `10 ^ e`? -/
def side (value : Ratio) (k : Nat) (e : Int) : Ordering :=
  let v := Ratio.scale value 10 (-e)
  compare (2 * v.num) ((2 * k + 1) * v.den)

/-- The grid of multiples of `10 ^ e`: its point for the value, if one lies in the interval. -/
def onGrid (closed : Bool) (value low high : Ratio) (e : Int) : Option Nat :=
  let v := Ratio.scale value 10 (-e)
  let k := v.num / v.den
  let lower := k > 0 && inside closed low high k e
  let upper := inside closed low high (k + 1) e
  match lower, upper with
  | false, false => none
  | true, false => some k
  | false, true => some (k + 1)
  -- both neighbours are inside: the nearer one, and the even one of two equally near
  | true, true =>
      match side value k e with
      | .lt => some k
      | .gt => some (k + 1)
      | .eq => some (if k % 2 = 0 then k else k + 1)

/-- The grids from `10 ^ e` on towards finer ones. -/
def firstGrid (closed : Bool) (value low high : Ratio) : Nat → Int → Nat × Int
  | 0, e => (0, e)
  | fuel + 1, e =>
      match onGrid closed value low high e with
      | some k => (k, e)
      | none => firstGrid closed value low high fuel (e - 1)

/-- Decimal exponent of the leading digit of `num / den`, found by trial from `guess` on. -/
def leadingExponent (value : Ratio) : Nat → Int → Int
  | 0, e => e
  | fuel + 1, e =>
      let v := Ratio.scale value 10 (-e)
      if v.num < v.den then leadingExponent value fuel (e - 1)
      else if v.num ≥ 10 * v.den then leadingExponent value fuel (e + 1)
      else e

/-- Drops the zeros at the end of the digits. -/
def strip : Nat → Nat → Int → Nat × Int
  | 0, k, e => (k, e)
  | fuel + 1, k, e => if k % 10 = 0 && k > 0 then strip fuel (k / 10) (e + 1) else (k, e)

/-- The shortest digits of a positive number, as `digits · 10 ^ exponent`. -/
def shortest (b : Binary) : Nat × Int :=
  let (value, low, high) := bounds b
  let closed := b.significand % 2 = 0
  -- the logarithm of two, in parts of a hundred thousand
  let guess := (Nat.log2 b.significand + b.exponent) * 30103 / 100000
  let lead := leadingExponent value 8 guess
  -- one grid coarser than the leading digit, as the interval may reach over it
  let (k, e) := firstGrid closed value low high 18 (lead + 1)
  strip 20 k e

end Decimal

end StubConsole
