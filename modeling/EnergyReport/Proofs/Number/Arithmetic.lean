import EnergyReport.Proofs.Number.Packing

namespace EnergyReport.Number

/-! Sums, products and quotients of numbers from zero on. -/

open Float.Model (Format UnpackedFloat)

section Exact

variable {first second : UnpackedFloat} {x y : ℚ}

theorem shiftLeft_mul_pow (significand : ℕ) {exponent place : ℤ} (least : place ≤ exponent) :
    ((significand <<< (exponent - place).toNat : ℕ) : ℚ) * 2 ^ place =
      significand * 2 ^ exponent := by
  have amount : (2 : ℚ) ^ exponent = 2 ^ (exponent - place).toNat * 2 ^ place := by
    rw [← zpow_natCast, ← zpow_add₀ (by norm_num)]
    congr 1
    omega
  rw [amount, Nat.shiftLeft_eq]
  push_cast
  ring

/-- A power of two below a number bounds its last place. -/
theorem le_lastPlace {place : ℤ} (above : 2 ^ (place + 52) ≤ x) : place ≤ lastPlace x := by
  have positive : 0 < x := (zpow_pos two_pos _).trans_le above
  have log := (Int.zpow_le_iff_le_log (b := 2) (by norm_num) positive).mp above
  unfold lastPlace
  omega

theorem holds_round {significand : ℕ} (positive : 0 < significand) (exponent : ℤ) :
    Holds (UnpackedFloat.round .binary64 .positive significand exponent)
      (rounded (significand * 2 ^ exponent)) := by
  have place : targetPlace significand exponent = lastPlace (significand * 2 ^ exponent) :=
    targetPlace_of_pos positive le_rfl (by simp) exponent
  have lowered : exponent - (exponent - targetPlace significand exponent).toNat =
      min exponent (targetPlace significand exponent) := by omega
  have amount : (exponent - targetPlace significand exponent).toNat =
      (exponent - min exponent (targetPlace significand exponent)).toNat := by omega
  have same := shiftLeft_mul_pow significand
    (min_le_left exponent (targetPlace significand exponent))
  rw [← amount] at same
  have some : 0 < significand <<< (exponent - targetPlace significand exponent).toNat :=
    Nat.shiftLeft_pos_iff.mpr positive
  rw [← same]
  change Holds (UnpackedFloat.roundWithAccuracy .binary64 .positive
    (significand <<< (exponent - targetPlace significand exponent).toNat)
    (exponent - (exponent - targetPlace significand exponent).toNat) .exact) _
  rw [lowered]
  refine holds_roundWithAccuracy .whole (by exact_mod_cast some) ?_
  rw [same, ← place]
  exact min_le_right _ _

theorem normalize_of_pos {significand : ℕ} (positive : 0 < significand) (exponent : ℤ)
    (sign : UnpackedFloat.Sign) :
    UnpackedFloat.normalize .binary64 significand exponent sign =
      UnpackedFloat.round .binary64 .positive significand exponent := by
  have above : compare (significand : ℤ) 0 = .gt := by
    rw [Int.compare_eq_gt]
    omega
  rw [UnpackedFloat.normalize, above, Int.toNat_natCast]

theorem Holds.add (holds : Holds first x) (holds' : Holds second y) :
    Holds (UnpackedFloat.add .binary64 first second) (rounded (x + y)) := by
  have alone := holds.rounded_eq
  have alone' := holds'.rounded_eq
  cases holds with
  | zero =>
      rw [zero_add, alone']
      cases holds' with
      | zero => exact .zero
      | finite positive small least normal => exact .finite positive small least normal
  | @finite significand exponent positive small least normal =>
      cases holds' with
      | zero =>
          rw [add_zero, alone]
          exact .finite positive small least normal
      | @finite significand' exponent' positive' small' least' normal' =>
          have aligned := shiftLeft_mul_pow significand (min_le_left exponent exponent')
          have aligned' := shiftLeft_mul_pow significand' (min_le_right exponent exponent')
          have some : 0 < significand <<< (exponent - min exponent exponent').toNat :=
            Nat.shiftLeft_pos_iff.mpr positive
          rw [← aligned, ← aligned', ← add_mul, ← Nat.cast_add]
          change Holds (UnpackedFloat.normalize .binary64
            (((significand <<< (exponent - min exponent exponent').toNat : ℕ) : ℤ) +
              (significand' <<< (exponent' - min exponent exponent').toNat : ℕ))
            (min exponent exponent') .positive) _
          rw [← Nat.cast_add, normalize_of_pos (Nat.add_pos_left some _)]
          exact holds_round (Nat.add_pos_left some _) _

theorem Holds.mul (holds : Holds first x) (holds' : Holds second y) :
    Holds (UnpackedFloat.mul .binary64 first second) (rounded (x * y)) := by
  cases holds with
  | zero =>
      rw [zero_mul, rounded_zero]
      cases holds' <;> exact .zero
  | @finite significand exponent positive small least normal =>
      cases holds' with
      | zero =>
          rw [mul_zero, rounded_zero]
          exact .zero
      | @finite significand' exponent' positive' small' least' normal' =>
          have product : (significand * 2 ^ exponent : ℚ) * (significand' * 2 ^ exponent') =
              (significand * significand' : ℕ) * 2 ^ (exponent + exponent') := by
            rw [zpow_add₀ (by norm_num)]
            push_cast
            ring
          have some : 0 < significand * significand' := Nat.mul_pos positive positive'
          rw [product]
          refine holds_roundWithAccuracy .whole (by exact_mod_cast some) ?_
          -- Only two subnormal numbers have a product without enough places.
          have enough : 2 ^ 52 ≤ significand * significand' ∨
              exponent = -1074 ∧ exponent' = -1074 := by
            rcases normal with large | lowest
            · exact .inl (large.trans (Nat.le_mul_of_pos_right _ positive'))
            · rcases normal' with large | lowest'
              · exact .inl (large.trans (Nat.le_mul_of_pos_left _ positive))
              · exact .inr ⟨lowest, lowest'⟩
          rcases enough with large | ⟨lowest, lowest'⟩
          · apply le_lastPlace
            rw [add_comm, zpow_add₀ (by norm_num)]
            gcongr
            exact_mod_cast large
          · have bound := least_le_lastPlace
              ((significand * significand' : ℕ) * 2 ^ (exponent + exponent'))
            omega

theorem describes_quotient (dividend : ℕ) {divisor : ℕ} (positive : 0 < divisor) :
    Describes (.ofMantissaAndAccuracy (dividend / divisor)
      (UnpackedFloat.accuracyOfFraction (dividend % divisor) divisor)) (dividend / divisor) := by
  have above : (0 : ℚ) < divisor := by exact_mod_cast positive
  have split : (dividend : ℚ) / divisor =
      (dividend / divisor : ℕ) + (dividend % divisor : ℕ) / divisor := by
    rw [div_eq_iff above.ne', add_mul, div_mul_cancel₀ _ above.ne']
    exact_mod_cast (Nat.div_add_mod' dividend divisor).symm
  have rest : (dividend % divisor : ℕ) < (divisor : ℚ) := by
    exact_mod_cast Nat.mod_lt dividend positive
  rw [split]
  generalize dividend / divisor = whole
  generalize dividend % divisor = remainder at rest
  unfold UnpackedFloat.accuracyOfFraction
  split_ifs with exact
  · rw [exact, Nat.cast_zero, zero_div, add_zero]
    exact .whole
  · have some : (0 : ℚ) < remainder := by exact_mod_cast Nat.pos_of_ne_zero exact
    cases order : compare (2 * remainder) divisor with
    | lt =>
        have less : (2 * remainder : ℚ) < divisor := by
          exact_mod_cast Nat.compare_eq_lt.mp order
        have half : (remainder : ℚ) / divisor < 1 / 2 := by
          rw [div_lt_iff₀ above]
          linarith
        exact .belowHalf (lt_add_of_pos_right _ (by positivity)) (by linarith)
    | eq =>
        have same : (2 * remainder : ℚ) = divisor := by
          exact_mod_cast Nat.compare_eq_eq.mp order
        have half : (remainder : ℚ) / divisor = 1 / 2 := by
          rw [div_eq_iff above.ne']
          linarith
        exact half ▸ .half
    | gt =>
        have more : (divisor : ℚ) < 2 * remainder := by
          exact_mod_cast Nat.compare_eq_gt.mp order
        have half : 1 / 2 < (remainder : ℚ) / divisor := by
          rw [lt_div_iff₀ above]
          linarith
        have most : (remainder : ℚ) / divisor < 1 := (div_lt_one above).mpr rest
        exact .aboveHalf (by linarith) (by linarith)

/-- The place down to which a quotient is computed. -/
def quotientPlace (significand : ℕ) (exponent : ℤ) (significand' : ℕ) (exponent' : ℤ) : ℤ :=
  min (exponent - exponent') (Format.targetExponent .binary64
    (Float.Model.totalExponent significand exponent -
      Float.Model.totalExponent significand' exponent'))

theorem quotientPlace_le_lastPlace {significand significand' : ℕ} (positive : 0 < significand)
    (positive' : 0 < significand') (exponent exponent' : ℤ) :
    quotientPlace significand exponent significand' exponent' ≤
      lastPlace (significand * 2 ^ exponent / (significand' * 2 ^ exponent')) := by
  have target : quotientPlace significand exponent significand' exponent' ≤
      max (significand.log2 + exponent - (significand'.log2 + exponent') - 53) (-1074) := by
    simp only [quotientPlace, Format.targetExponent, Float.Model.totalExponent,
      Format.mantissaBits, Format.minExponent]
    omega
  have above : (2 : ℚ) ^ (significand.log2 + exponent : ℤ) ≤ significand * 2 ^ exponent := by
    rw [zpow_add₀ (by norm_num)]
    gcongr
    exact_mod_cast Nat.log2_self_le positive.ne'
  have below : (significand' * 2 ^ exponent' : ℚ) ≤
      2 ^ (significand'.log2 + 1 + exponent' : ℤ) := by
    rw [zpow_add₀ (by norm_num)]
    gcongr
    exact_mod_cast Nat.lt_log2_self.le
  rcases le_max_iff.mp target with normal | lowest
  · apply le_lastPlace
    rw [le_div_iff₀ (by positivity)]
    refine le_trans ?_ above
    refine (mul_le_mul_of_nonneg_left below (zpow_nonneg zero_le_two _)).trans ?_
    rw [← zpow_add₀ (by norm_num)]
    exact zpow_le_zpow_right₀ (by norm_num) (by omega)
  · exact lowest.trans (least_le_lastPlace _)

theorem Holds.div (holds : Holds first x) (holds' : Holds second y) (positive : 0 < y) :
    Holds (UnpackedFloat.div .binary64 first second) (rounded (x / y)) := by
  cases holds' with
  | zero => exact absurd positive (lt_irrefl 0)
  | @finite significand' exponent' positive' small' least' normal' =>
      cases holds with
      | zero =>
          rw [zero_div, rounded_zero]
          exact .zero
      | @finite significand exponent above small least normal =>
          let place := quotientPlace significand exponent significand' exponent'
          let dividend := significand <<< (exponent - exponent' - place).toNat
          have aligned : (dividend : ℚ) * 2 ^ place = significand * 2 ^ (exponent - exponent') :=
            shiftLeft_mul_pow significand (min_le_left _ _)
          have quotient : (significand * 2 ^ exponent : ℚ) / (significand' * 2 ^ exponent') =
              dividend / significand' * 2 ^ place := by
            rw [div_mul_eq_mul_div, aligned, zpow_sub₀ (by norm_num), mul_div_mul_comm,
              mul_div_right_comm]
          have some : 0 < dividend := Nat.shiftLeft_pos_iff.mpr above
          change Holds (UnpackedFloat.roundWithAccuracy .binary64 .positive
            (dividend / significand') place
            (UnpackedFloat.accuracyOfFraction (dividend % significand') significand')) _
          rw [quotient]
          refine holds_roundWithAccuracy (describes_quotient dividend positive') (by positivity) ?_
          rw [← quotient]
          exact quotientPlace_le_lastPlace above positive' exponent exponent'

end Exact

section Whole

variable {n : ℕ}

theorem rounded_natCast (small : n < 2 ^ 53) : rounded n = n := by
  rcases Nat.eq_zero_or_pos n with rfl | positive
  · exact_mod_cast rounded_zero
  · have bits : n.log2 < 53 := (Nat.log2_lt positive.ne').mpr small
    have log := log2_shiftLeft positive (52 - n.log2)
    have some : n <<< (52 - n.log2) ≠ 0 := (Nat.shiftLeft_pos_iff.mpr positive).ne'
    have large : 2 ^ 52 ≤ n <<< (52 - n.log2) := le_shiftLeft positive (by omega)
    have fits : n <<< (52 - n.log2) < 2 ^ 53 := (Nat.log2_lt some).mp (by omega)
    have amount : (0 - (n.log2 - 52 : ℤ)).toNat = 52 - n.log2 := by omega
    have same : ((n <<< (0 - (n.log2 - 52 : ℤ)).toNat : ℕ) : ℚ) * 2 ^ (n.log2 - 52 : ℤ) =
        n * 2 ^ (0 : ℤ) := shiftLeft_mul_pow n (by omega)
    rw [amount, zpow_zero, mul_one] at same
    have holds : Holds (.finite .positive (n <<< (52 - n.log2)) (n.log2 - 52) (by omega)) _ :=
      .finite _ fits (by omega) (.inl large)
    rw [same] at holds
    exact holds.rounded_eq

theorem rounded_one : rounded 1 = 1 := by
  exact_mod_cast rounded_natCast (n := 1) (by norm_num)

theorem holds_ofNat (small : n < 2 ^ 53) : Holds (UnpackedFloat.ofNat .binary64 n) n := by
  rcases Nat.eq_zero_or_pos n with rfl | positive
  · exact_mod_cast Holds.zero
  · have nearest := holds_round positive 0
    rw [zpow_zero, mul_one, rounded_natCast small] at nearest
    rwa [UnpackedFloat.ofNat, UnpackedFloat.ofInt, normalize_of_pos positive]

end Whole

end EnergyReport.Number
