import Mathlib.Algebra.Group.Nat.Defs
import EmbeddedSql.Number.Binary64

/-! The real that an integer converts to is finite: rounding adds little to the
exponent, and no integer of 64 bits comes near the largest one. -/

namespace EmbeddedSql.Binary64

open Float.Model (Format totalExponent)
open Float.Model.UnpackedFloat

/-! ## Rounding -/

theorem mantissa_shiftRight_le (mantissa : ExtendedMantissa) (count : Nat) :
    (mantissa >>> count).mantissa ≤ mantissa.mantissa := by
  change (count.repeat ExtendedMantissa.shiftRightOne mantissa).mantissa ≤ mantissa.mantissa
  induction count with
  | zero => exact Nat.le_refl _
  | succ count ih =>
      exact Nat.le_trans (Nat.div_le_self _ _) ih

theorem roundedMantissa_le (mantissa : ExtendedMantissa) :
    mantissa.roundedMantissa ≤ mantissa.mantissa + 1 := by
  unfold ExtendedMantissa.roundedMantissa Accuracy.roundToNearestEven
  split <;> omega

theorem targetExponent_eq (mantissa : Nat) (exponent : Int) :
    Format.targetExponent .binary64 (totalExponent mantissa exponent) =
      max (mantissa.log2 + 1 + exponent - 53) (-1074) :=
  rfl

theorem mantissa_shiftToTargetExponent_le (mantissa : Nat) (exponent : Int) :
    (shiftToTargetExponent .binary64 mantissa exponent .exact).1.mantissa ≤ mantissa :=
  mantissa_shiftRight_le _ _

theorem exponent_shiftToTargetExponent_le {mantissa bits : Nat} (exponent : Int)
    (isSmall : mantissa < 2 ^ bits) (isLarge : -1074 ≤ exponent + bits) :
    (shiftToTargetExponent .binary64 mantissa exponent .exact).2 ≤ exponent + bits := by
  have log : mantissa = 0 ∧ mantissa.log2 = 0 ∨ mantissa.log2 < bits := by
    by_cases isZero : mantissa = 0
    · exact .inl ⟨isZero, isZero ▸ Nat.log2_zero⟩
    · exact .inr ((Nat.log2_lt isZero).mpr isSmall)
  simp only [shiftToTargetExponent, shiftToExponent, targetExponent_eq]
  omega

theorem le_exponent_shiftToTargetExponent (mantissa : Nat) (exponent : Int) :
    exponent ≤ (shiftToTargetExponent .binary64 mantissa exponent .exact).2 := by
  simp only [shiftToTargetExponent, shiftToExponent]
  omega

/-- Neither infinite nor with an exponent that becomes infinite when it is packed. -/
def IsPackable : Float.Model.UnpackedFloat → Prop
  | .zero _ => True
  | .finite _ _ exponent _ => exponent < 971
  | _ => False

theorem isPackable_roundWithAccuracy (sign : Sign) {mantissa bits : Nat} {exponent : Int}
    (isSmall : mantissa < 2 ^ bits) (isLarge : -1074 ≤ exponent + bits)
    (isBounded : exponent + 2 * bits < 970) :
    IsPackable (roundWithAccuracy .binary64 sign mantissa exponent .exact) := by
  have first := exponent_shiftToTargetExponent_le exponent isSmall isLarge
  have shifted := mantissa_shiftToTargetExponent_le mantissa exponent
  have rounded : (shiftToTargetExponent .binary64 mantissa exponent .exact).1.roundedMantissa <
      2 ^ (bits + 1) := by
    have := roundedMantissa_le (shiftToTargetExponent .binary64 mantissa exponent .exact).1
    omega
  have atLeast := le_exponent_shiftToTargetExponent mantissa exponent
  have second := exponent_shiftToTargetExponent_le
    (shiftToTargetExponent .binary64 mantissa exponent .exact).2 rounded (by omega)
  unfold roundWithAccuracy
  dsimp only
  by_cases isZero : (shiftToTargetExponent .binary64
      (shiftToTargetExponent .binary64 mantissa exponent .exact).1.roundedMantissa
      (shiftToTargetExponent .binary64 mantissa exponent .exact).2 .exact).1.mantissa = 0
  · rw [dif_pos isZero]
    trivial
  · rw [dif_neg isZero]
    exact Int.lt_of_le_of_lt second (by omega)

theorem isPackable_ofNat {value : Nat} (isSmall : value < 2 ^ 64) :
    IsPackable (ofNat .binary64 value) := by
  unfold ofNat ofInt Float.Model.UnpackedFloat.normalize
  split
  case h_1 isNegative =>
    rw [Int.compare_eq_lt] at isNegative
    omega
  case h_2 => trivial
  case h_3 =>
    have log : value.log2 < 64 := by
      by_cases isZero : value = 0
      · rw [isZero, Nat.log2_zero]
        decide
      · exact (Nat.log2_lt isZero).mpr isSmall
    -- The mantissa is first filled up to 53 bits, which takes at most 52 shifts.
    let shift := ((0 : Int) - Format.targetExponent .binary64 (totalExponent value 0)).toNat
    have fewShifts : shift ≤ 52 := by
      simp only [shift, targetExponent_eq]
      omega
    have filled : value <<< shift < 2 ^ (64 + 52) := by
      rw [Nat.shiftLeft_eq, Nat.pow_add]
      exact Nat.mul_lt_mul_of_lt_of_le isSmall (Nat.pow_le_pow_right (by decide) fewShifts)
        (by decide)
    rw [Int.toNat_natCast]
    exact isPackable_roundWithAccuracy .positive filled (by omega) (by omega)

/-! ## Packing -/

theorem exponent_pack {unpacked : Float.Model.UnpackedFloat} (packable : IsPackable unpacked) :
    unpackExponent (pack .binary64 unpacked) ≠ -1#_ := by
  fun_cases pack with
  | case1 => cases packable
  | case2 sign => cases packable
  | case3 sign => simp [packedZero]
  | case4 sign mantissa exponent isPositive biased isLarge =>
      have isSmall : exponent < 971 := packable
      simp only [biased, Format.exponentBias] at isLarge
      omega
  | case5 sign mantissa exponent isPositive bits biased isBelow isNormal =>
      have isShort : biased + 1 < 2048 := Nat.lt_of_not_le isBelow
      rw [unpackExponent_packComponents]
      intro same
      have isAll : biased % 2048 = 2047 := congrArg BitVec.toNat same
      omega
  | case6 sign mantissa exponent isPositive bits biased isBelow isSubnormal => simp

theorem isFinite_of_exponent {value : Binary64}
    (isSmall : @unpackExponent .binary64 value.bits.toBitVec ≠ -1#_) : value.isFinite := by
  have notAll : (@unpackExponent .binary64 value.bits.toBitVec).toNat ≠ 0x7FF :=
    fun same => isSmall (BitVec.eq_of_toNat_eq same)
  have width : (@unpackExponent .binary64 value.bits.toBitVec).toNat < 0x800 := BitVec.isLt _
  have same : (@unpackExponent .binary64 value.bits.toBitVec).toNat = value.exponentBits := by
    rw [unpackExponent, BitVec.toNat_cast, BitVec.extractLsb_toNat, Nat.shiftRight_eq_div_pow,
      exponentBits, magnitudeBits]
    change value.bits.toNat / 2 ^ 52 % 2 ^ 11 = _
    omega
  rw [isFinite, decide_eq_true_iff]
  omega

theorem isFinite_ofUInt64 (value : UInt64) : (ofUInt64 value).isFinite :=
  isFinite_of_exponent (exponent_pack (isPackable_ofNat value.toNat_lt))

end EmbeddedSql.Binary64
