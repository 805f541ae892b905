import StubConsole.Decimal.Shortest
import StubConsole.Text.Integer

/-!
# Reading — decimal fractions in texts

`fraction?` reads an optional sign, digits with or without a point, and an optional exponent; the
value is the nearest double.  The words `inf`, `infinity` and `nan` are numbers too, though not
finite ones.
-/

namespace StubConsole

namespace Decimal

/-- What a text says about a number. -/
inductive Fraction where
  | finite (bits : UInt64)
  | notFinite
  deriving DecidableEq, Repr

def lowerAscii (s : List Char) : List Char :=
  s.map Char.toLower

/-- The nearest double to `digits · 10 ^ exponent`.  Beyond the exponents that doubles reach the
answer does not depend on the digits. -/
def nearest (negative : Bool) (digits : Nat) (exponent : Int) : Fraction :=
  let lead := (Text.decimal digits).length + exponent
  let x :=
    if digits = 0 || lead < -400 then 0.0
    else if lead > 400 then Float.ofScientific 1 false 400
    else Float.ofScientific digits (exponent < 0) exponent.natAbs
  if x.isInf then .notFinite else .finite (if negative then (-x).toBits else x.toBits)

/-- The exponent behind a mantissa: nothing, or an `e` with a signed whole number. -/
def readExponent? : List Char → Option Int
  | [] => some 0
  | e :: rest =>
      if e ≠ 'e' && e ≠ 'E' then none
      else
        match rest with
        | '+' :: digits => (Text.readDigits? digits).map Int.ofNat
        | '-' :: digits => (Text.readDigits? digits).map fun n => -Int.ofNat n
        | digits => (Text.readDigits? digits).map Int.ofNat

def readUnsigned? (negative : Bool) (s : List Char) : Option Fraction :=
  let word := lowerAscii s
  if word = "inf".toList || word = "infinity".toList || word = "nan".toList then some .notFinite
  else
    let whole := s.takeWhile Char.isDigit
    let (fraction, rest) := match s.dropWhile Char.isDigit with
      | '.' :: rest => (rest.takeWhile Char.isDigit, rest.dropWhile Char.isDigit)
      | rest => ([], rest)
    let digits := whole ++ fraction
    if digits.isEmpty then none
    else
      (readExponent? rest).map fun e =>
        nearest negative (Nat.ofDigitChars 10 digits 0) (e - fraction.length)

def fraction? (s : List Char) : Option Fraction :=
  match s with
  | '+' :: rest => readUnsigned? false rest
  | '-' :: rest => readUnsigned? true rest
  | _ => readUnsigned? false s

/-- The whole part of a finite double, toward zero. -/
def truncate (bits : UInt64) : Int :=
  match Binary.ofBits? bits with
  | none => 0
  | some (negative, b) =>
      let magnitude :=
        if b.exponent ≥ 0 then b.significand <<< b.exponent.toNat
        else b.significand >>> (-b.exponent).toNat
      if negative then -(magnitude : Int) else magnitude

end Decimal

end StubConsole
