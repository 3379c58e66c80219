import EnergyReport.Proofs.Number.Rounding
import EnergyReport.Proofs.Number.Whole

namespace EnergyReport.Number

/-! Floating-point arithmetic on numbers from zero on is exact arithmetic that is rounded once. -/

open Float.Model (Format UnpackedFloat)
open Float.Model.UnpackedFloat (ExtendedMantissa Accuracy)

/-- The bits behind a mantissa tell on which side of the half the exact number is. -/
inductive Describes : ExtendedMantissa → ℚ → Prop where
  | whole {n : ℕ} : Describes ⟨n, false, false⟩ n
  | belowHalf {n : ℕ} {x : ℚ} (least : n < x) (below : x < n + 1 / 2) :
      Describes ⟨n, false, true⟩ x
  | half {n : ℕ} : Describes ⟨n, true, false⟩ (n + 1 / 2)
  | aboveHalf {n : ℕ} {x : ℚ} (above : n + 1 / 2 < x) (most : x < n + 1) :
      Describes ⟨n, true, true⟩ x

/-- A number from zero on, written with no more places than there are and as many as it can. -/
inductive Holds : UnpackedFloat → ℚ → Prop where
  | zero : Holds (.zero .positive) 0
  | finite {significand : ℕ} {exponent : ℤ} (positive : 0 < significand)
      (small : significand < 2 ^ 53) (least : -1074 ≤ exponent)
      (normal : 2 ^ 52 ≤ significand ∨ exponent = -1074) :
      Holds (.finite .positive significand exponent positive) (significand * 2 ^ exponent)

section Mantissa

variable {extended : ExtendedMantissa} {x : ℚ}

theorem shiftRightOne_even (n : ℕ) (roundBit stickyBit : Bool) :
    ExtendedMantissa.shiftRightOne ⟨2 * n, roundBit, stickyBit⟩ =
      ⟨n, false, roundBit || stickyBit⟩ := by
  simp [ExtendedMantissa.shiftRightOne]

theorem shiftRightOne_odd (n : ℕ) (roundBit stickyBit : Bool) :
    ExtendedMantissa.shiftRightOne ⟨2 * n + 1, roundBit, stickyBit⟩ =
      ⟨n, true, roundBit || stickyBit⟩ := by
  have half : (2 * n + 1) / 2 = n := by omega
  simp [ExtendedMantissa.shiftRightOne, half]

/-- An odd mantissa goes to the half, and what stands behind it to one side of it. -/
theorem Describes.shiftRightOne (described : Describes extended x) :
    Describes extended.shiftRightOne (x / 2) := by
  cases described with
  | @whole n =>
      obtain ⟨n, rfl | rfl⟩ := n.even_or_odd'
      · rw [shiftRightOne_even, show ((2 * n : ℕ) : ℚ) / 2 = n by push_cast; ring]
        exact .whole
      · rw [shiftRightOne_odd, show ((2 * n + 1 : ℕ) : ℚ) / 2 = n + 1 / 2 by push_cast; ring]
        exact .half
  | @belowHalf n x least below =>
      obtain ⟨n, rfl | rfl⟩ := n.even_or_odd' <;> push_cast at least below
      · rw [shiftRightOne_even]
        exact .belowHalf (by linarith) (by linarith)
      · rw [shiftRightOne_odd]
        exact .aboveHalf (by linarith) (by linarith)
  | @half n =>
      obtain ⟨n, rfl | rfl⟩ := n.even_or_odd' <;> push_cast
      · rw [shiftRightOne_even]
        exact .belowHalf (by linarith) (by linarith)
      · rw [shiftRightOne_odd]
        exact .aboveHalf (by linarith) (by linarith)
  | @aboveHalf n x above most =>
      obtain ⟨n, rfl | rfl⟩ := n.even_or_odd' <;> push_cast at above most
      · rw [shiftRightOne_even]
        exact .belowHalf (by linarith) (by linarith)
      · rw [shiftRightOne_odd]
        exact .aboveHalf (by linarith) (by linarith)

theorem Describes.shiftRight (described : Describes extended x) (places : ℕ) :
    Describes (extended >>> places) (x / 2 ^ places) := by
  change Describes (places.repeat ExtendedMantissa.shiftRightOne extended) _
  induction places with
  | zero => simpa [Nat.repeat] using described
  | succ places ih =>
      have halved := ih.shiftRightOne
      rwa [div_div, ← pow_succ] at halved

theorem Describes.roundedMantissa_eq (described : Describes extended x) :
    extended.roundedMantissa = nearestEven x := by
  cases described with
  | whole => exact (nearestEven_natCast _).symm
  | belowHalf least below => exact (nearestEven_of_below least.le below).symm
  | half => exact (nearestEven_of_half rfl).symm
  | aboveHalf above most => exact (nearestEven_of_above above most).symm

theorem Describes.bounds (described : Describes extended x) :
    extended.mantissa ≤ x ∧ x < extended.mantissa + 1 := by
  cases described with
  | whole => exact ⟨le_rfl, by simp⟩
  | belowHalf least below => exact ⟨least.le, by dsimp only; linarith⟩
  | half => constructor <;> dsimp only <;> linarith
  | aboveHalf above most => exact ⟨by dsimp only; linarith, most⟩

end Mantissa

section Round

variable {significand : ℕ} {exponent : ℤ} {accuracy : Accuracy} {x : ℚ}

/-- The place at which the format rounds. -/
def targetPlace (significand : ℕ) (exponent : ℤ) : ℤ :=
  Format.targetExponent .binary64 (Float.Model.totalExponent significand exponent)

theorem targetPlace_eq (significand : ℕ) (exponent : ℤ) :
    targetPlace significand exponent = max (significand.log2 + exponent - 52) (-1074) := by
  simp only [targetPlace, Format.targetExponent, Float.Model.totalExponent, Format.mantissaBits,
    Format.minExponent]
  omega

/-- The format rounds at the last place. -/
theorem targetPlace_of_pos (some : 0 < significand) (least : significand ≤ x)
    (below : x < significand + 1) (exponent : ℤ) :
    targetPlace significand exponent = lastPlace (x * 2 ^ exponent) := by
  have power : (0 : ℚ) < 2 ^ exponent := by positivity
  have above : (2 : ℚ) ^ (significand.log2 : ℤ) ≤ x := by
    refine le_trans ?_ least
    exact_mod_cast Nat.log2_self_le some.ne'
  have less : x < 2 ^ (significand.log2 + 1 : ℤ) := by
    refine below.trans_le ?_
    exact_mod_cast Nat.lt_log2_self
  have positive : 0 < x := (zpow_pos two_pos _).trans_le above
  rw [targetPlace_eq]
  symm
  refine lastPlace_eq (mul_pos positive power) (le_max_right _ _) ?_ ?_
  · calc x * 2 ^ exponent < 2 ^ (significand.log2 + 1 : ℤ) * 2 ^ exponent := by gcongr
      _ = 2 ^ (significand.log2 + 1 + exponent : ℤ) := (zpow_add₀ (by norm_num) _ _).symm
      _ ≤ _ := zpow_le_zpow_right₀ (by norm_num) (by omega)
  · rcases le_or_gt (-1074) (significand.log2 + exponent - 52) with normal | subnormal
    · left
      calc (2 : ℚ) ^ (max (significand.log2 + exponent - 52) (-1074) + 52)
          = 2 ^ (significand.log2 : ℤ) * 2 ^ exponent := by
            rw [max_eq_left normal, sub_add_cancel, zpow_add₀ (by norm_num)]
        _ ≤ x * 2 ^ exponent := by gcongr
    · exact .inr (max_eq_right subnormal.le)

/-- Without a significand the exponent has to be small already. -/
theorem targetPlace_zero (positive : 0 < x) (below : x < 1)
    (early : exponent ≤ lastPlace (x * 2 ^ exponent)) :
    targetPlace 0 exponent = lastPlace (x * 2 ^ exponent) := by
  have power : (0 : ℚ) < 2 ^ exponent := by positivity
  have small : x * 2 ^ exponent < 2 ^ exponent := by
    rwa [mul_lt_iff_lt_one_left power]
  have lowest : lastPlace (x * 2 ^ exponent) = -1074 := by
    by_contra normal
    have between := (le_of_lastPlace (mul_pos positive power) normal).trans_lt small
    rw [zpow_lt_zpow_iff_right₀ (by norm_num)] at between
    omega
  rw [lowest] at early ⊢
  rw [targetPlace_eq, Nat.log2_zero]
  omega

theorem targetPlace_eq_lastPlace (positive : 0 < x) (least : significand ≤ x)
    (below : x < significand + 1) (early : exponent ≤ lastPlace (x * 2 ^ exponent)) :
    targetPlace significand exponent = lastPlace (x * 2 ^ exponent) := by
  rcases Nat.eq_zero_or_pos significand with rfl | some
  · exact targetPlace_zero positive (by simpa using below) early
  · exact targetPlace_of_pos some least below exponent

theorem shiftToTargetExponent_eq (significand : ℕ) (exponent : ℤ) (accuracy : Accuracy) :
    UnpackedFloat.shiftToTargetExponent .binary64 significand exponent accuracy =
      (ExtendedMantissa.ofMantissaAndAccuracy significand accuracy >>>
          (targetPlace significand exponent - exponent).toNat,
        max exponent (targetPlace significand exponent)) := by
  have place : exponent + (targetPlace significand exponent - exponent).toNat =
      max exponent (targetPlace significand exponent) := by omega
  rw [← place]
  rfl

/-- A significand that was rounded up to 54 places loses the last one, which is zero. -/
theorem holds_carried {place : ℤ} (most : significand ≤ 2 ^ 53) (least : -1074 ≤ place)
    (normal : 2 ^ 52 ≤ significand ∨ place = -1074) {final : ℕ} {exponent : ℤ}
    (shifted : final = significand / 2 ^ (targetPlace significand place - place).toNat)
    (raised : exponent = max place (targetPlace significand place)) :
    Holds (if zero : final = 0 then .zero .positive
      else .finite .positive final exponent (Nat.pos_of_ne_zero zero))
      (significand * 2 ^ place) := by
  rw [targetPlace_eq] at shifted raised
  rcases most.eq_or_lt with rfl | small
  · rw [Nat.log2_two_pow] at shifted raised
    have amount : (max (((53 : ℕ) : ℤ) + place - 52) (-1074) - place).toNat = 1 := by omega
    obtain rfl : exponent = place + 1 := by omega
    obtain rfl : final = 2 ^ 52 := by
      rw [shifted, amount]
      rfl
    have same : ((2 ^ 53 : ℕ) : ℚ) * 2 ^ place = (2 ^ 52 : ℕ) * 2 ^ (place + 1) := by
      rw [zpow_add_one₀ (by norm_num)]
      push_cast
      ring
    rw [same, dif_neg (by norm_num)]
    exact .finite _ (by norm_num) (by omega) (.inl le_rfl)
  · have bits : significand.log2 < 53 := by
      rcases Nat.eq_zero_or_pos significand with rfl | some
      · simp
      · exact (Nat.log2_lt some.ne').mpr small
    have amount : (max ((significand.log2 : ℤ) + place - 52) (-1074) - place).toNat = 0 := by omega
    obtain rfl : exponent = place := by omega
    obtain rfl : final = significand := by
      rw [shifted, amount, pow_zero, Nat.div_one]
    split_ifs with zero
    · rw [zero, Nat.cast_zero, zero_mul]
      exact .zero
    · exact .finite _ small least normal

/-- Rounding gives the nearest number, if the significand is not too short. -/
theorem holds_roundWithAccuracy
    (described : Describes (.ofMantissaAndAccuracy significand accuracy) x) (positive : 0 < x)
    (early : exponent ≤ lastPlace (x * 2 ^ exponent)) :
    Holds (UnpackedFloat.roundWithAccuracy .binary64 .positive significand exponent accuracy)
      (rounded (x * 2 ^ exponent)) := by
  have bounds := described.bounds
  rw [mantissa_ofMantissaAndAccuracy] at bounds
  have place := targetPlace_eq_lastPlace positive bounds.1 bounds.2 early
  have product : 0 < x * 2 ^ exponent := mul_pos positive (zpow_pos two_pos _)
  have amount : (2 : ℚ) ^ lastPlace (x * 2 ^ exponent) =
      2 ^ exponent * 2 ^ (lastPlace (x * 2 ^ exponent) - exponent).toNat := by
    rw [← zpow_natCast, ← zpow_add₀ (by norm_num)]
    congr 1
    omega
  have scaled := described.shiftRight (lastPlace (x * 2 ^ exponent) - exponent).toNat
  have same : x / 2 ^ (lastPlace (x * 2 ^ exponent) - exponent).toNat =
      x * 2 ^ exponent / 2 ^ lastPlace (x * 2 ^ exponent) := by
    rw [amount, mul_comm x, mul_div_mul_left _ _ (zpow_ne_zero _ (by norm_num))]
  rw [same] at scaled
  have nearest := scaled.roundedMantissa_eq
  simp only [UnpackedFloat.roundWithAccuracy, shiftToTargetExponent_eq, place, max_eq_right early,
    nearest]
  refine holds_carried (nearestEven_scaled_le _) (least_le_lastPlace _) ?_ ?_ rfl
  · exact or_iff_not_imp_right.mpr (le_nearestEven_scaled product)
  · rw [mantissa_shiftRight, mantissa_ofMantissaAndAccuracy]

end Round

section Pack

variable {unpacked : UnpackedFloat} {x : ℚ}

theorem Holds.nonneg (holds : Holds unpacked x) : 0 ≤ x := by
  cases holds <;> positivity

/-- A number that fits is its own nearest one. -/
theorem Holds.rounded_eq (holds : Holds unpacked x) : rounded x = x := by
  cases holds with
  | zero => exact rounded_zero
  | @finite significand exponent positive small least normal =>
      have power : (0 : ℚ) < 2 ^ exponent := by positivity
      have place : lastPlace (significand * 2 ^ exponent) = exponent := by
        refine lastPlace_eq (by positivity) least ?_ (normal.imp_left fun large => ?_)
        · rw [add_comm, zpow_add₀ (by norm_num), mul_lt_mul_iff_left₀ power]
          exact_mod_cast small
        · rw [add_comm, zpow_add₀ (by norm_num), mul_le_mul_iff_left₀ power]
          exact_mod_cast large
      rw [rounded, place, mul_div_cancel_right₀ _ power.ne', nearestEven_natCast]

theorem unpack_pack_subnormal {significand : ℕ} (positive : 0 < significand)
    (small : significand < 2 ^ 52) :
    (Float.Model.pack (.finite .positive significand (-1074) positive)).unpack =
      .finite .positive significand (-1074) positive := by
  have bits : significand.log2 < 52 := (Nat.log2_lt positive.ne').mpr small
  have packed : UnpackedFloat.pack .binary64 (.finite .positive significand (-1074) positive) =
      UnpackedFloat.packComponents .binary64 .positive 0#11 (BitVec.ofNat 52 significand) := by
    have lowest : (-1074 + (Format.exponentBias .binary64 : Int) + (52 : Nat)).toNat = 1 := rfl
    have short : ¬ significand.log2 + 1 = Format.mantissaBits .binary64 := by
      simp only [Format.mantissaBits]
      omega
    simp only [UnpackedFloat.pack, lowest, if_neg short]
    rw [if_neg (by omega)]
  have kept : (BitVec.ofNat 52 significand).toNat = significand := by
    rw [BitVec.toNat_ofNat]
    exact Nat.mod_eq_of_lt small
  have some : BitVec.ofNat 52 significand ≠ 0#52 := by
    intro none
    rw [none] at kept
    exact positive.ne kept
  have notAll : 0#11 ≠ -1#11 := by decide
  simp only [Float.Model.unpack, Float.Model.pack, packed, UnpackedFloat.unpack,
    UnpackedFloat.unpackExponent_packComponents, UnpackedFloat.unpackMantissa_packComponents,
    unpackSign_packComponents, if_neg notAll, dif_neg some, kept, if_true]
  rfl

theorem mul_pow_lt {significand : ℕ} {exponent : ℤ} (small : significand < 2 ^ 53)
    (most : exponent < 972) : (significand : ℚ) * 2 ^ exponent < 2 ^ (1024 : ℤ) := by
  have power : (0 : ℚ) < 2 ^ exponent := by positivity
  calc (significand : ℚ) * 2 ^ exponent < 2 ^ (53 : ℤ) * 2 ^ exponent := by
        rw [mul_lt_mul_iff_left₀ power]
        exact_mod_cast small
    _ = 2 ^ (53 + exponent) := (zpow_add₀ (by norm_num) _ _).symm
    _ ≤ 2 ^ (1024 : ℤ) := zpow_le_zpow_right₀ (by norm_num) (by omega)

/-- The exponents that the format has room for. -/
theorem exponent_le_iff {significand : ℕ} {exponent : ℤ} (small : significand < 2 ^ 53)
    (large : 2 ^ 52 ≤ significand) :
    (significand : ℚ) * 2 ^ exponent < 2 ^ (1024 : ℤ) ↔ exponent ≤ 971 := by
  have power : (0 : ℚ) < 2 ^ exponent := by positivity
  constructor
  · intro fits
    have least : (2 : ℚ) ^ (52 + exponent) < 2 ^ (1024 : ℤ) := by
      refine lt_of_le_of_lt ?_ fits
      rw [zpow_add₀ (by norm_num), mul_le_mul_iff_left₀ power]
      exact_mod_cast large
    rw [zpow_lt_zpow_iff_right₀ (by norm_num)] at least
    omega
  · intro most
    exact mul_pow_lt small (by omega)

theorem unpack_pack_of_holds (holds : Holds unpacked x) (fits : x < 2 ^ (1024 : ℤ)) :
    (Float.Model.pack unpacked).unpack = unpacked := by
  cases holds with
  | zero => rfl
  | @finite significand exponent positive small least normal =>
      by_cases large : 2 ^ 52 ≤ significand
      · have most := (exponent_le_iff small large).mp fits
        exact unpack_pack (.normal positive large small le_rfl le_rfl) least most
      · obtain rfl : exponent = -1074 := normal.resolve_left large
        exact unpack_pack_subnormal positive (not_le.mp large)

theorem unpack_pack_of_large (holds : Holds unpacked x) (large : 2 ^ (1024 : ℤ) ≤ x) :
    (Float.Model.pack unpacked).unpack = .infinity .positive := by
  cases holds with
  | zero => exact absurd large (not_le.mpr (zpow_pos two_pos _))
  | @finite significand exponent positive small least normal =>
      have above : 972 ≤ exponent := by
        by_contra below
        have less : (significand : ℚ) * 2 ^ exponent < 2 ^ (1024 : ℤ) :=
          mul_pow_lt small (not_le.mp below)
        exact absurd large (not_le.mpr less)
      have packed : UnpackedFloat.pack .binary64 (.finite .positive significand exponent positive) =
          UnpackedFloat.packedInfinity .binary64 .positive := by
        have biased :
            2047 ≤ (exponent + (Format.exponentBias .binary64 : Int) + (52 : Nat)).toNat := by
          simp only [Format.exponentBias]
          omega
        simp only [UnpackedFloat.pack]
        rw [if_pos (by omega)]
      simp only [Float.Model.unpack, Float.Model.pack, packed]
      rfl

theorem toNat_append_fraction (fraction : BitVec 52) :
    (1#1 ++ fraction).toNat = 2 ^ 52 + fraction.toNat := by
  rw [BitVec.toNat_append, ← Nat.shiftLeft_add_eq_or_of_lt fraction.isLt, Nat.shiftLeft_eq]
  simp

theorem shape_of_unpack {bits : BitVec 64} {sign : UnpackedFloat.Sign} {significand : ℕ}
    {exponent : ℤ} {positive : 0 < significand}
    (unpacked : UnpackedFloat.unpack .binary64 bits = .finite sign significand exponent positive) :
    significand < 2 ^ 53 ∧ -1074 ≤ exponent ∧ exponent ≤ 971 ∧
      (2 ^ 52 ≤ significand ∨ exponent = -1074) := by
  have places : (@UnpackedFloat.unpackExponent .binary64 bits).toNat < 2 ^ 11 := BitVec.isLt _
  have short : (@UnpackedFloat.unpackMantissa .binary64 bits).toNat < 2 ^ 52 := BitVec.isLt _
  have whole := toNat_append_fraction (@UnpackedFloat.unpackMantissa .binary64 bits)
  unfold UnpackedFloat.unpack at unpacked
  simp only [Format.exponentBias] at unpacked
  split_ifs at unpacked with all _ lowest
  · obtain ⟨-, rfl, rfl⟩ := UnpackedFloat.finite.inj unpacked
    have zero : (@UnpackedFloat.unpackExponent .binary64 bits).toNat = 0 :=
      congrArg BitVec.toNat lowest
    omega
  · obtain ⟨-, rfl, rfl⟩ := UnpackedFloat.finite.inj unpacked
    have notAll : (@UnpackedFloat.unpackExponent .binary64 bits).toNat ≠ 2047 :=
      fun same => all (BitVec.toNat_inj.mp same)
    have some : (@UnpackedFloat.unpackExponent .binary64 bits).toNat ≠ 0 :=
      fun same => lowest (BitVec.toNat_inj.mp same)
    rw [whole]
    omega

end Pack

end EnergyReport.Number
