import Mathlib

namespace EnergyReport.Number

/-! Whole numbers of 64 bits as floating-point numbers.

Rounding keeps them finite, and above zero where they are. The argument follows the 53 leading
bits of a number through rounding and packing; its exponent stays far from both ends of the
range. -/

open Float.Model (Format UnpackedFloat)
open Float.Model.UnpackedFloat (ExtendedMantissa Accuracy)

/-- A number above zero whose significand has the 53 bits that the format holds. -/
inductive Normal (least most : Int) : UnpackedFloat → Prop where
  | normal {significand : Nat} {exponent : Int} (positive : 0 < significand)
      (large : 2 ^ 52 ≤ significand) (small : significand < 2 ^ 53)
      (above : least ≤ exponent) (below : exponent ≤ most) :
      Normal least most (.finite .positive significand exponent positive)

theorem mantissa_shiftRight (extended : ExtendedMantissa) (places : Nat) :
    (extended >>> places).mantissa = extended.mantissa / 2 ^ places := by
  change (places.repeat ExtendedMantissa.shiftRightOne extended).mantissa = _
  induction places with
  | zero => simp [Nat.repeat]
  | succ places ih =>
      rw [Nat.repeat, ExtendedMantissa.shiftRightOne, ih, Nat.div_div_eq_div_mul, Nat.pow_succ]

theorem mantissa_ofMantissaAndAccuracy (mantissa : Nat) (accuracy : Accuracy) :
    (ExtendedMantissa.ofMantissaAndAccuracy mantissa accuracy).mantissa = mantissa := by
  cases accuracy with
  | exact => rfl
  | inexact order => cases order <;> rfl

theorem roundedMantissa_bounds (extended : ExtendedMantissa) :
    extended.mantissa ≤ extended.roundedMantissa ∧
      extended.roundedMantissa ≤ extended.mantissa + 1 := by
  obtain ⟨mantissa, roundBit, stickyBit⟩ := extended
  have parity : mantissa % 2 < 2 := Nat.mod_lt _ (by omega)
  cases roundBit <;> cases stickyBit <;>
    simp only [ExtendedMantissa.roundedMantissa, ExtendedMantissa.accuracy,
      Accuracy.roundToNearestEven] <;>
    omega

/-- Shifting to the exponent of the format keeps the leading 53 bits. -/
theorem exists_shiftToTargetExponent_eq {mantissa : Nat} {exponent : Int} (accuracy : Accuracy)
    (large : 52 ≤ mantissa.log2) (above : -1074 ≤ exponent) :
    ∃ extended, UnpackedFloat.shiftToTargetExponent .binary64 mantissa exponent accuracy =
        (extended, exponent + (mantissa.log2 - 52 : Nat)) ∧
      extended.mantissa = mantissa / 2 ^ (mantissa.log2 - 52) := by
  have amount : (Format.targetExponent .binary64
      (Float.Model.totalExponent mantissa exponent) - exponent).toNat = mantissa.log2 - 52 := by
    simp only [Format.targetExponent, Float.Model.totalExponent, Format.mantissaBits,
      Format.minExponent]
    omega
  simp only [UnpackedFloat.shiftToTargetExponent, UnpackedFloat.shiftToExponent, amount]
  refine ⟨_, rfl, ?_⟩
  rw [mantissa_shiftRight, mantissa_ofMantissaAndAccuracy]

theorem div_pow_log2_bounds {mantissa : Nat} (large : 52 ≤ mantissa.log2) :
    2 ^ 52 ≤ mantissa / 2 ^ (mantissa.log2 - 52) ∧
      mantissa / 2 ^ (mantissa.log2 - 52) < 2 ^ 53 := by
  have nonzero : mantissa ≠ 0 := by
    rintro rfl
    simp at large
  have below : 2 ^ 52 * 2 ^ (mantissa.log2 - 52) ≤ mantissa := by
    rw [← Nat.pow_add, Nat.add_sub_cancel' large]
    exact Nat.log2_self_le nonzero
  have above : mantissa < 2 ^ 53 * 2 ^ (mantissa.log2 - 52) := by
    rw [← Nat.pow_add, show 53 + (mantissa.log2 - 52) = mantissa.log2 + 1 by omega]
    exact Nat.lt_log2_self
  exact ⟨(Nat.le_div_iff_mul_le (Nat.two_pow_pos _)).mpr below,
    (Nat.div_lt_iff_lt_mul (Nat.two_pow_pos _)).mpr above⟩

/-- A large significand is rounded to 53 bits; the rounding may carry into one bit more. -/
theorem normal_roundWithAccuracy {mantissa : Nat} {exponent : Int} {accuracy : Accuracy}
    (large : 2 ^ 52 ≤ mantissa) (above : -1074 ≤ exponent) :
    Normal exponent (exponent + mantissa.log2 - 51)
      (UnpackedFloat.roundWithAccuracy .binary64 .positive mantissa exponent accuracy) := by
  have bits : 52 ≤ mantissa.log2 := (Nat.le_log2 (by omega)).mpr large
  obtain ⟨extended, shifted, kept⟩ := exists_shiftToTargetExponent_eq accuracy bits above
  obtain ⟨enough, fits⟩ := div_pow_log2_bounds bits
  obtain ⟨notLess, atMost⟩ := roundedMantissa_bounds extended
  have carried : extended.roundedMantissa.log2 = 52 ∨ extended.roundedMantissa.log2 = 53 := by
    have least : 52 ≤ extended.roundedMantissa.log2 :=
      (Nat.le_log2 (by omega)).mpr (by omega)
    have most : extended.roundedMantissa.log2 < 54 := (Nat.log2_lt (by omega)).mpr (by omega)
    omega
  have bits' : 52 ≤ extended.roundedMantissa.log2 := by omega
  have above' : -1074 ≤ exponent + (mantissa.log2 - 52 : Nat) := by omega
  obtain ⟨final, shiftedAgain, keptAgain⟩ := exists_shiftToTargetExponent_eq .exact bits' above'
  obtain ⟨enough', fits'⟩ := div_pow_log2_bounds bits'
  rw [← keptAgain] at enough' fits'
  have nonzero : final.mantissa ≠ 0 := by omega
  simp only [UnpackedFloat.roundWithAccuracy, shifted, shiftedAgain, dif_neg nonzero]
  exact .normal _ enough' fits' (by omega) (by omega)

theorem unpackSign_packComponents {format : Format} {sign : UnpackedFloat.Sign}
    {exponent : BitVec format.exponentBits}
    {mantissa : BitVec format.mantissaBitsWithoutImplicit} :
    UnpackedFloat.unpackSign (UnpackedFloat.packComponents format sign exponent mantissa) =
      sign.toBitVec := by
  ext i inSign
  have first : i = 0 := by omega
  subst first
  simp [UnpackedFloat.unpackSign, UnpackedFloat.packComponents, BitVec.getLsbD_append,
    BitVec.getLsbD_eq_getElem, BitVec.getElem_append]

/-- The leading bit that the format leaves out is put back. -/
theorem toNat_leadingBit_append {significand : Nat} (large : 2 ^ 52 ≤ significand)
    (small : significand < 2 ^ 53) : (1#1 ++ BitVec.ofNat 52 significand).toNat = significand := by
  have low : (BitVec.ofNat 52 significand).toNat < 2 ^ 52 := BitVec.isLt _
  rw [BitVec.toNat_append, ← Nat.shiftLeft_add_eq_or_of_lt low]
  simp only [BitVec.toNat_ofNat, Nat.shiftLeft_eq]
  omega

theorem unpack_pack {least most : Int} {x : UnpackedFloat} (normal : Normal least most x)
    (above : -1074 ≤ least) (below : most ≤ 971) : (Float.Model.pack x).unpack = x := by
  obtain ⟨positive, large, small, above', below'⟩ := normal
  rename_i significand exponent
  have log : significand.log2 = 52 := by
    have least : 52 ≤ significand.log2 := (Nat.le_log2 (by omega)).mpr large
    have most : significand.log2 < 53 := (Nat.log2_lt (by omega)).mpr small
    omega
  obtain ⟨biased, isBiased⟩ : ∃ biased : Nat, (biased : Int) = exponent + 1075 :=
    ⟨(exponent + 1075).toNat, by omega⟩
  have packed : UnpackedFloat.pack .binary64 (.finite .positive significand exponent positive) =
      UnpackedFloat.packComponents .binary64 .positive (BitVec.ofNat 11 biased)
        (BitVec.ofNat 52 significand) := by
    have same : (exponent + (Format.exponentBias .binary64 : Int) + (52 : Nat)).toNat = biased := by
      simp only [Format.exponentBias]
      omega
    simp only [UnpackedFloat.pack, same, log, Format.mantissaBits, ↓reduceIte]
    rw [if_neg (by omega)]
  have kept : (BitVec.ofNat 11 biased).toNat = biased := by
    rw [BitVec.toNat_ofNat]
    exact Nat.mod_eq_of_lt (by omega)
  have notAll : BitVec.ofNat 11 biased ≠ -1#11 := by
    intro same
    rw [same, show (-1#11).toNat = 2047 from rfl] at kept
    omega
  have notNone : BitVec.ofNat 11 biased ≠ 0#11 := by
    intro same
    rw [same, show (0#11).toNat = 0 from rfl] at kept
    omega
  simp only [Float.Model.unpack, Float.Model.pack, packed, UnpackedFloat.unpack,
    UnpackedFloat.unpackExponent_packComponents, UnpackedFloat.unpackMantissa_packComponents,
    unpackSign_packComponents, if_neg notAll, if_neg notNone, toNat_leadingBit_append large small,
    kept, Format.exponentBias]
  congr 1
  omega

theorem Normal.mono {least most least' most' : Int} {x : UnpackedFloat}
    (normal : Normal least most x) (lower : least' ≤ least) (higher : most ≤ most') :
    Normal least' most' x := by
  obtain ⟨positive, large, small, above, below⟩ := normal
  exact .normal positive large small (by omega) (by omega)

section Whole

variable {n : Nat}

theorem log2_shiftLeft (positive : 0 < n) (places : Nat) :
    (n <<< places).log2 = n.log2 + places := by
  induction places with
  | zero => rfl
  | succ places ih =>
      have nonzero : n <<< places ≠ 0 := Nat.ne_of_gt (Nat.shiftLeft_pos_iff.mpr positive)
      rw [Nat.shiftLeft_succ, Nat.log2_two_mul nonzero, ih]
      omega

theorem le_shiftLeft (positive : 0 < n) {places : Nat} (enough : 52 ≤ n.log2 + places) :
    2 ^ 52 ≤ n <<< places := by
  refine (Nat.le_log2 (Nat.ne_of_gt (Nat.shiftLeft_pos_iff.mpr positive))).mp ?_
  rwa [log2_shiftLeft positive]

/-- A whole number is rounded after zeros are put behind it until it has 53 bits. -/
theorem normal_ofNat (positive : 0 < n) (fits : n < 2 ^ 64) :
    Normal (-52) 12 (UnpackedFloat.ofNat .binary64 n) := by
  have bits : n.log2 < 64 := (Nat.log2_lt (by omega)).mpr fits
  have sign : compare (n : Int) 0 = .gt := by
    rw [Int.compare_eq_gt]
    omega
  have amount : (0 - Format.targetExponent .binary64
      (Float.Model.totalExponent n 0)).toNat = 52 - n.log2 := by
    simp only [Format.targetExponent, Float.Model.totalExponent, Format.mantissaBits,
      Format.minExponent]
    omega
  have log := log2_shiftLeft positive (52 - n.log2)
  have large : 2 ^ 52 ≤ n <<< (52 - n.log2) := le_shiftLeft positive (by omega)
  simp only [UnpackedFloat.ofNat, UnpackedFloat.ofInt, UnpackedFloat.normalize, sign,
    UnpackedFloat.round, UnpackedFloat.decreaseExponent, Int.toNat_natCast, amount]
  exact (normal_roundWithAccuracy large (by omega)).mono (by omega) (by omega)

theorem normal_ofScientific (positive : 0 < n) (fits : n < 2 ^ 64) :
    Normal (-53) 12 (UnpackedFloat.ofScientific .binary64 n 0) := by
  have bits : n.log2 < 64 := (Nat.log2_lt (by omega)).mpr fits
  have log := log2_shiftLeft positive 53
  have large : 2 ^ 52 ≤ n <<< 53 := le_shiftLeft positive (by omega)
  have nonzero : n ≠ 0 := by omega
  have width : Format.mantissaBits .binary64 = 53 := rfl
  have near : ¬ (0 : Int) > 2 ^ 11 ∧ ¬ (0 : Int) < -(2 ^ 11 + n.log2) := by omega
  simp only [UnpackedFloat.ofScientific, dif_neg nonzero, if_neg near.1, if_neg near.2,
    Int.le_refl, ↓reduceIte, UnpackedFloat.mul, Int.toNat_zero, Nat.pow_zero, Nat.mul_one, width]
  exact (normal_roundWithAccuracy large (by omega)).mono (by omega) (by omega)

theorem normal_mul_one {least most : Int} {x : UnpackedFloat} (normal : Normal least most x)
    (above : -1022 ≤ least) :
    Normal (least - 52) (most + 1)
      (UnpackedFloat.mul .binary64 x (.finite .positive (2 ^ 52) (-52) (by decide))) := by
  obtain ⟨positive, large, small, above', below'⟩ := normal
  rename_i significand exponent
  have log : (significand * 2 ^ 52).log2 < 105 := (Nat.log2_lt (by omega)).mpr (by omega)
  change Normal _ _ (UnpackedFloat.roundWithAccuracy .binary64 .positive (significand * 2 ^ 52)
    (exponent + -52) .exact)
  exact (normal_roundWithAccuracy (by omega) (by omega)).mono (by omega) (by omega)

theorem unpack_one : (Float.ofBits 0x3FF0000000000000).toModel.unpack =
    .finite .positive (2 ^ 52) (-52) (by decide) := by
  rfl

/-- A small whole number is multiplied by one, a large one is rounded at once. -/
theorem normal_unpack_ofNat (positive : 0 < n) (fits : n < 2 ^ 64) :
    Normal (-104) 20 (Float.ofNat n).toModel.unpack := by
  change Normal _ _ (Float.ofScientific n false 0).toModel.unpack
  unfold Float.ofScientific
  split
  · have whole : n.toUInt64.toNat = n := UInt64.toNat_ofNat_of_lt' fits
    have normal := normal_ofNat positive fits
    have unpacked := unpack_pack normal (by omega) (by omega)
    change Normal _ _ (n.toUInt64.toFloat * Float.ofBits 0x3FF0000000000000).toModel.unpack
    have product : (n.toUInt64.toFloat * Float.ofBits 0x3FF0000000000000).toModel =
        .pack (UnpackedFloat.mul .binary64 (UnpackedFloat.ofNat .binary64 n)
          (.finite .positive (2 ^ 52) (-52) (by decide))) := by
      change Float.Model.pack (UnpackedFloat.mul _
        (Float.Model.pack (UnpackedFloat.ofNat .binary64 n.toUInt64.toNat)).unpack
        (Float.ofBits 0x3FF0000000000000).toModel.unpack) = _
      rw [whole, unpacked, unpack_one]
    have multiplied := normal_mul_one normal (by omega)
    rw [product, unpack_pack multiplied (by omega) (by omega)]
    exact multiplied.mono (by omega) (by omega)
  · have normal := normal_ofScientific positive fits
    have unpacked := unpack_pack normal (by omega) (by omega)
    simp only [Float.Model.ofScientific, Bool.false_eq_true, ↓reduceIte]
    exact (unpacked.symm ▸ normal).mono (by omega) (by omega)

theorem isFinite_ofNat (fits : n < 2 ^ 64) : (Float.ofNat n).isFinite := by
  cases n with
  | zero => rfl
  | succ n =>
      have normal := normal_unpack_ofNat (Nat.succ_pos n) fits
      change ((Float.ofNat (n + 1)).toModel.unpack).isFinite
      generalize (Float.ofNat (n + 1)).toModel.unpack = x at normal
      cases normal
      rfl

theorem zero_lt_ofNat_iff (fits : n < 2 ^ 64) : 0 < Float.ofNat n ↔ 0 < n := by
  cases n with
  | zero => decide
  | succ n =>
      have normal := normal_unpack_ofNat (Nat.succ_pos n) fits
      simp only [Nat.succ_pos, iff_true]
      have less :
          UnpackedFloat.lt (0 : Float).toModel.unpack (Float.ofNat (n + 1)).toModel.unpack := by
        generalize (Float.ofNat (n + 1)).toModel.unpack = x at normal
        cases normal
        rfl
      exact decide_eq_true less

end Whole

end EnergyReport.Number
