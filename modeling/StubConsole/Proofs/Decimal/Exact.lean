import Mathlib
import StubConsole.Decimal.Reading

/-!
# Exact — whole numbers that a double holds

A double has a significand of 53 bits.  A whole number of at most so many bits is shifted until its
leading bit is in the highest place, and nothing is lost on the way: not when it is read, and not
when it is decoded again.

* `Binary64.round_normal` — rounding takes back the zeros that were shifted in;
* `Binary64.unpack_pack`, `Binary64.toNat_pack` — what the bits of a double stand for;
* `Decimal.nearest_whole` — the double that is nearest to such a number is the number itself.
-/

namespace StubConsole

namespace Binary64

open Float.Model (Format UnpackedFloat totalExponent)
open Float.Model.UnpackedFloat

/-! ## Rounding -/

section Rounding

variable {m : Nat} {e : Int}

theorem log2_mul_two_pow (hm : m ≠ 0) (k : Nat) : (m * 2 ^ k).log2 = m.log2 + k := by
  have hpos : 0 < 2 ^ k := Nat.two_pow_pos k
  have hne : m * 2 ^ k ≠ 0 := Nat.mul_ne_zero hm (Nat.ne_of_gt hpos)
  rw [Nat.log2_eq_iff hne, Nat.pow_add, Nat.add_right_comm, Nat.pow_add]
  exact ⟨Nat.mul_le_mul_right _ (Nat.log2_self_le hm),
    Nat.mul_lt_mul_of_pos_right Nat.lt_log2_self hpos⟩

theorem shift_exact (m k : Nat) :
    (⟨m * 2 ^ k, false, false⟩ : ExtendedMantissa) >>> k = ⟨m, false, false⟩ := by
  induction k generalizing m with
  | zero => rw [Nat.pow_zero, Nat.mul_one]; rfl
  | succ k ih =>
      have hone : (⟨m * 2 ^ (k + 1), false, false⟩ : ExtendedMantissa) >>> (k + 1)
          = ((⟨m * 2 ^ (k + 1), false, false⟩ : ExtendedMantissa) >>> k).shiftRightOne := rfl
      rw [hone, Nat.pow_succ', ← Nat.mul_assoc, ih]
      simp [ExtendedMantissa.shiftRightOne]

theorem shiftToTargetExponent_normal (hm : m.log2 = 52) (he : -1074 ≤ e) (k : Nat) :
    shiftToTargetExponent Format.binary64 (m * 2 ^ k) (e - k) .exact
      = (⟨m, false, false⟩, e) := by
  have hne : m ≠ 0 := by
    rintro rfl
    cases hm
  have htotal : Format.binary64.targetExponent (totalExponent (m * 2 ^ k) (e - k)) = e := by
    simp only [Format.targetExponent, totalExponent, log2_mul_two_pow hne, hm,
      Format.mantissaBits, Format.minExponent]
    omega
  have hshift : (e - (e - (k : Int))).toNat = k := by omega
  rw [shiftToTargetExponent, htotal, shiftToExponent, hshift]
  simp only [ExtendedMantissa.ofMantissaAndAccuracy, shift_exact, Prod.mk.injEq, true_and]
  omega

/-- Rounding takes back the zeros that were shifted in. -/
theorem round_normal (s : Sign) (hm : m.log2 = 52) (hpos : 0 < m) (he : -1074 ≤ e) (k : Nat) :
    roundWithAccuracy Format.binary64 s (m * 2 ^ k) (e - k) .exact = .finite s m e hpos := by
  have hagain := shiftToTargetExponent_normal hm he 0
  rw [Nat.pow_zero, Nat.mul_one, Int.natCast_zero, Int.sub_zero] at hagain
  rw [roundWithAccuracy, shiftToTargetExponent_normal hm he k]
  simp only [ExtendedMantissa.roundedMantissa, ExtendedMantissa.accuracy,
    Accuracy.roundToNearestEven, hagain, dif_neg (Nat.ne_of_gt hpos)]

end Rounding

/-! ## Bits -/

section Bits

variable {s : Sign} {m : Nat} {e : Int}

theorem toNat_append {n k : Nat} (x : BitVec n) (y : BitVec k) :
    (x ++ y).toNat = x.toNat * 2 ^ k + y.toNat := by
  rw [BitVec.toNat_append, ← Nat.shiftLeft_add_eq_or_of_lt y.isLt, Nat.shiftLeft_eq]

theorem sign_packComponents (s : Sign) (exponent : BitVec 11) (mantissa : BitVec 52) :
    Sign.ofBitVec (unpackSign (packComponents Format.binary64 s exponent mantissa)) = s := by
  have hbit : unpackSign (packComponents Format.binary64 s exponent mantissa) = s.toBitVec := by
    change (s.toBitVec ++ exponent ++ mantissa).extractLsb' 63 1 = s.toBitVec
    rw [BitVec.extractLsb'_append_eq_of_le (by decide),
      BitVec.extractLsb'_append_eq_of_le (by decide)]
    cases s <;> rfl
  rw [hbit]
  cases s <;> rfl

/-- A significand with its leading bit in the highest place, and an exponent in reach. -/
structure Normal (m : Nat) (e : Int) : Prop where
  lower : 2 ^ 52 ≤ m
  upper : m < 2 ^ 53
  least : -1074 ≤ e
  greatest : e ≤ 971

namespace Normal

variable (h : Normal m e)

include h

theorem pos : 0 < m := Nat.lt_of_lt_of_le (Nat.two_pow_pos 52) h.lower

theorem log2_eq : m.log2 = 52 := (Nat.log2_eq_iff (Nat.ne_of_gt h.pos)).2 ⟨h.lower, h.upper⟩

theorem pack_eq (s : Sign) : pack Format.binary64 (.finite s m e h.pos)
    = packComponents Format.binary64 s (BitVec.ofNat 11 (e + 1075).toNat)
        (BitVec.ofNat 52 (m - 2 ^ 52)) := by
  have hlower := h.lower
  have hupper := h.upper
  have hmantissa : BitVec.ofNat 52 m = BitVec.ofNat 52 (m - 2 ^ 52) := by
    refine BitVec.eq_of_toNat_eq ?_
    rw [BitVec.toNat_ofNat, BitVec.toNat_ofNat]
    omega
  have hbiased : (e + Format.binary64.exponentBias
      + Format.binary64.mantissaBitsWithoutImplicit).toNat = (e + 1075).toNat :=
    congrArg Int.toNat (Int.add_assoc e 1023 52)
  have hfinite : ¬ 2 ^ Format.binary64.exponentBits ≤ (e + 1075).toNat + 1 := by
    have hgreatest := h.greatest
    change ¬ 2048 ≤ (e + 1075).toNat + 1
    omega
  rw [pack.eq_4]
  simp only [hbiased, if_neg hfinite, h.log2_eq]
  rw [← hmantissa]
  rfl

theorem toNat_exponent : (BitVec.ofNat 11 (e + 1075).toNat).toNat = (e + 1075).toNat := by
  have hgreatest := h.greatest
  rw [BitVec.toNat_ofNat]
  omega

theorem toNat_mantissa : (BitVec.ofNat 52 (m - 2 ^ 52)).toNat = m - 2 ^ 52 := by
  have hupper := h.upper
  rw [BitVec.toNat_ofNat]
  omega

theorem unpack_pack (s : Sign) : unpack Format.binary64 (pack Format.binary64 (.finite s m e h.pos))
    = .finite s m e h.pos := by
  have hleast := h.least
  have hgreatest := h.greatest
  have hlower := h.lower
  have hexponent := h.toNat_exponent
  have hinfinite : BitVec.ofNat 11 (e + 1075).toNat ≠ -1#11 := fun heq => by
    rw [heq] at hexponent
    change 2047 = _ at hexponent
    omega
  have hsmall : BitVec.ofNat 11 (e + 1075).toNat ≠ 0#11 := fun heq => by
    rw [heq] at hexponent
    change 0 = _ at hexponent
    omega
  have hmantissa : (1#1 ++ BitVec.ofNat 52 (m - 2 ^ 52)).toNat = m := by
    rw [toNat_append, h.toNat_mantissa]
    change 1 * 2 ^ 52 + _ = _
    omega
  have hunbiased : ((e + 1075).toNat : Int)
      - (Format.binary64.exponentBias + Format.binary64.mantissaBitsWithoutImplicit) = e := by
    change ((e + 1075).toNat : Int) - (1023 + 52) = e
    omega
  rw [h.pack_eq, unpack]
  simp only [unpackExponent_packComponents, unpackMantissa_packComponents, sign_packComponents]
  rw [if_neg hinfinite, if_neg hsmall]
  simp only [hexponent, hunbiased, hmantissa]

theorem toNat_pack (s : Sign) : (pack Format.binary64 (.finite s m e h.pos)).toNat
    = s.toBitVec.toNat * 2 ^ 63 + (e + 1075).toNat * 2 ^ 52 + (m - 2 ^ 52) := by
  rw [h.pack_eq, packComponents, toNat_append, toNat_append, h.toNat_exponent, h.toNat_mantissa]
  omega

theorem neg_pack (s : Sign) :
    -(⟨Float.Model.pack (.finite s m e h.pos)⟩ : Float)
      = ⟨Float.Model.pack (.finite (-s) m e h.pos)⟩ := by
  have hneg : -(⟨Float.Model.pack (.finite s m e h.pos)⟩ : Float)
      = ⟨Float.Model.pack (UnpackedFloat.neg
          (unpack Format.binary64 (pack Format.binary64 (.finite s m e h.pos))))⟩ := rfl
  rw [hneg, h.unpack_pack]
  rfl

end Normal

end Bits

/-! ## Whole numbers -/

/-- How far the leading bit of a number is from the highest place. -/
def places (n : Nat) : Nat := 52 - n.log2

section Whole

variable {n : Nat}

theorem normal_shifted (hpos : 0 < n) (hlt : n < 2 ^ 53) :
    Normal (n * 2 ^ places n) (-(places n : Int)) := by
  have hne : n ≠ 0 := Nat.ne_of_gt hpos
  have hlog : n.log2 < 53 := (Nat.log2_lt hne).2 hlt
  have hshifted : (n * 2 ^ places n).log2 = 52 := by
    rw [log2_mul_two_pow hne, places]
    omega
  have hbounds := (Nat.log2_eq_iff (Nat.ne_of_gt (Nat.mul_pos hpos (Nat.two_pow_pos _)))).1 hshifted
  refine ⟨hbounds.1, hbounds.2, ?_, ?_⟩
  · rw [places]
    omega
  · rw [places]
    omega

theorem ofNat_eq (hpos : 0 < n) (hlt : n < 2 ^ 53) :
    UnpackedFloat.ofNat Format.binary64 n
      = .finite .positive (n * 2 ^ places n) (-(places n : Int)) (normal_shifted hpos hlt).pos := by
  have hnormal := normal_shifted hpos hlt
  have hlog : n.log2 < 53 := (Nat.log2_lt (Nat.ne_of_gt hpos)).2 hlt
  have htarget : Format.binary64.targetExponent (totalExponent n 0) = -(places n : Int) := by
    simp only [Format.targetExponent, totalExponent, Format.mantissaBits, Format.minExponent,
      places]
    omega
  have hshift : (- -(places n : Int)).toNat = places n := by omega
  have hround := round_normal .positive hnormal.log2_eq hnormal.pos hnormal.least 0
  rw [Nat.pow_zero, Nat.mul_one, Int.natCast_zero, Int.sub_zero] at hround
  have hcompare : compare (n : Int) 0 = .gt := Int.compare_eq_gt.2 (Int.natCast_pos.2 hpos)
  rw [UnpackedFloat.ofNat, ofInt, UnpackedFloat.normalize, hcompare]
  simp only [Int.toNat_natCast, UnpackedFloat.round, htarget, decreaseExponent, Int.zero_sub,
    hshift, Nat.shiftLeft_eq, hround]

/-- The number one as a factor: its zeros are taken back again. -/
theorem ofScientific_eq (hpos : 0 < n) (hlt : n < 2 ^ 53) :
    Float.ofScientific n false 0
      = ⟨Float.Model.pack (.finite .positive (n * 2 ^ places n) (-(places n : Int))
          (normal_shifted hpos hlt).pos)⟩ := by
  have hnormal := normal_shifted hpos hlt
  have hread : n.toUInt64.toFloat.toModel.unpack = .finite .positive (n * 2 ^ places n)
      (-(places n : Int)) hnormal.pos := by
    have hword : n.toUInt64.toNat = n := Nat.mod_eq_of_lt (Nat.lt_trans hlt (by decide))
    have hmodel : n.toUInt64.toFloat.toModel.unpack
        = unpack Format.binary64 (pack Format.binary64
            (UnpackedFloat.ofNat Format.binary64 n.toUInt64.toNat)) := rfl
    rw [hmodel, hword, ofNat_eq hpos hlt, hnormal.unpack_pack]
  have hone : (Float.exactlyRepresentablePowersOfTen[0]).toModel.unpack
      = .finite .positive (2 ^ 52) (-52) (Nat.two_pow_pos 52) := rfl
  have hround := round_normal .positive hnormal.log2_eq hnormal.pos hnormal.least 52
  rw [Float.ofScientific, dif_pos ⟨hlt, Nat.zero_le 22⟩]
  have hproduct : (n.toUInt64.toFloat * Float.exactlyRepresentablePowersOfTen[0]).toModel
      = Float.Model.pack (UnpackedFloat.mul Format.binary64 n.toUInt64.toFloat.toModel.unpack
          (Float.exactlyRepresentablePowersOfTen[0]).toModel.unpack) := rfl
  rw [hread, hone] at hproduct
  have hmul := hproduct.trans (congrArg Float.Model.pack hround)
  exact congrArg Float.ofModel hmul

end Whole

end Binary64

namespace Decimal

open Binary64 Float.Model.UnpackedFloat

section Truncate

variable {m n : Nat} {e : Int} {bits : UInt64}

theorem ofBits?_normal (h : Normal m e) (s : Sign)
    (hbits : bits.toNat
      = s.toBitVec.toNat * 2 ^ 63 + (e + 1075).toNat * 2 ^ 52 + (m - 2 ^ 52)) :
    ∃ narrow, Binary.ofBits? bits = some (s == .negative, ⟨m, e, narrow⟩) := by
  obtain ⟨hlower, hupper, hleast, hgreatest⟩ := h
  have hsign : s.toBitVec.toNat < 2 := s.toBitVec.isLt
  have hbit : bits.toNat >>> 63 = s.toBitVec.toNat := by
    rw [Nat.shiftRight_eq_div_pow, hbits]
    omega
  have hbiased : (bits.toNat >>> 52) % 2048 = (e + 1075).toNat := by
    rw [Nat.shiftRight_eq_div_pow, hbits]
    omega
  have hfraction : bits.toNat % Binary.hiddenBit = m - 2 ^ 52 := by
    rw [hbits, Binary.hiddenBit]
    omega
  have hinfinite : ((e + 1075).toNat == 2047) = false := by simp; omega
  have hsmall : ((e + 1075).toNat == 0) = false := by simp; omega
  have hnegative : (s.toBitVec.toNat == 1) = (s == .negative) := by cases s <;> rfl
  have hsignificand : Binary.hiddenBit + (m - 2 ^ 52) = m := by
    rw [Binary.hiddenBit]
    omega
  have hexponent : ((e + 1075).toNat : Int) - 1075 = e := by omega
  refine ⟨m - 2 ^ 52 == 0 && (e + 1075).toNat > 1, ?_⟩
  simp only [Binary.ofBits?, hbit, hbiased, hfraction, hinfinite, hsmall, hnegative,
    hsignificand, hexponent, Bool.false_eq_true, if_false]

theorem truncate_shifted (h : Normal (n * 2 ^ places n) (-(places n : Int))) (s : Sign)
    (hbits : bits.toNat = s.toBitVec.toNat * 2 ^ 63 + (-(places n : Int) + 1075).toNat * 2 ^ 52
      + (n * 2 ^ places n - 2 ^ 52)) :
    truncate bits = if s == .negative then -(n : Int) else n := by
  rcases ofBits?_normal h s hbits with ⟨narrow, hdecoded⟩
  have hmagnitude : (if -(places n : Int) ≥ 0 then (n * 2 ^ places n) <<< (-(places n : Int)).toNat
      else (n * 2 ^ places n) >>> (- -(places n : Int)).toNat) = n := by
    split
    next hnone =>
      have hzero : places n = 0 := by omega
      simp [hzero]
    next =>
      rw [Int.neg_neg, Int.toNat_natCast, Nat.shiftRight_eq_div_pow,
        Nat.mul_div_cancel _ (Nat.two_pow_pos _)]
  simp only [truncate, hdecoded, hmagnitude]

end Truncate

/-- A whole number of at most 53 bits is read as itself. -/
theorem nearest_whole (negative : Bool) {n : Nat} (hlt : n < 2 ^ 53) :
    ∃ bits, nearest negative n 0 = .finite bits
      ∧ truncate bits = if negative then -(n : Int) else n := by
  rcases Nat.eq_zero_or_pos n with rfl | hpos
  · cases negative with
    | false => exact ⟨0, by decide +kernel, by decide +kernel⟩
    | true => exact ⟨0x8000000000000000, by decide +kernel, by decide +kernel⟩
  have hnormal := normal_shifted hpos hlt
  have hx := ofScientific_eq hpos hlt
  have hfinite : (Float.ofScientific n false 0).isInf = false := by
    have hunpacked : (Float.ofScientific n false 0).toModel.unpack = .finite .positive
        (n * 2 ^ places n) (-(places n : Int)) hnormal.pos := by
      rw [hx]
      exact hnormal.unpack_pack .positive
    rw [Float.isInf, Float.Model.isInf, hunpacked]
    rfl
  have hread : nearest negative n 0 = .finite (if negative then
      (-Float.ofScientific n false 0).toBits else (Float.ofScientific n false 0).toBits) := by
    have hlength : (Text.decimal n).length ≤ 16 :=
      (Nat.length_toDigits_le_iff (by decide) (by decide)).2 (Nat.lt_trans hlt (by decide))
    have hleast : ¬ ((Text.decimal n).length : Int) + 0 < -400 := by omega
    have hgreatest : ¬ ((Text.decimal n).length : Int) + 0 > 400 := by omega
    simp only [nearest, Nat.ne_of_gt hpos, hleast, hgreatest, decide_false, Bool.or_self,
      Bool.false_eq_true, if_false, Int.lt_irrefl, Int.natAbs_zero, hfinite]
  refine ⟨_, hread, ?_⟩
  cases negative with
  | false =>
      refine truncate_shifted hnormal .positive ?_
      rw [if_neg Bool.false_ne_true, hx]
      exact hnormal.toNat_pack .positive
  | true =>
      refine truncate_shifted hnormal .negative ?_
      rw [if_pos rfl, hx, hnormal.neg_pack]
      exact hnormal.toNat_pack .negative

end Decimal

end StubConsole
