import StubConsole.Decimal.Shortest
import StubConsole.Text.Integer

/-!
# Fixed — a double with a fixed number of decimal places

The exact value is rounded to the nearest multiple of the last place; halfway between two of them
the even one is taken.
-/

namespace StubConsole

namespace Decimal

/-- The nearest whole number, the even one of two that are equally near. -/
def Ratio.round (r : Ratio) : Nat :=
  let k := r.num / r.den
  match compare (2 * (r.num % r.den)) r.den with
  | .lt => k
  | .gt => k + 1
  | .eq => if k % 2 = 0 then k else k + 1

/-- A finite double with the given number of places, which is at least one.  A sign is kept even
where only zeros are left. -/
def fixed (places : Nat) (bits : UInt64) : String :=
  match Binary.ofBits? bits with
  | none => "NaN"
  | some (negative, b) =>
      let unit := Nat.pow 10 places
      let units := (Ratio.scale ⟨b.significand * unit, 1⟩ 2 b.exponent).round
      let sign := if negative then ['-'] else []
      String.ofList (sign ++ Text.decimal (units / unit) ++ '.'
        :: Text.padded places (units % unit))

end Decimal

end StubConsole
