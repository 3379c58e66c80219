import EnergyReport.Proofs.Number.Exact

namespace EnergyReport.Number

/-! Floating-point numbers of both signs and the infinite ones, in one order.

A number stands at its exact value, and an infinite one at the first power of two that is too large.
A sum or a product stands at the exact result, rounded once and held between the two infinities, so
that both are monotone. -/

open Float.Model (Format UnpackedFloat)
open Float.Model.UnpackedFloat (Sign)

def infinityRank : ℚ := 2 ^ (1024 : ℤ)

/-- The rounded number, held between the two infinities. -/
def nearest (x : ℚ) : ℚ :=
  if x < 0 then -min (rounded (-x)) infinityRank else min (rounded x) infinityRank

def signed : Sign → ℚ → ℚ
  | .negative, x => -x
  | .positive, x => x

/-- Where a floating-point number stands among all others, if it is one. -/
def rank? : UnpackedFloat → Option ℚ
  | .notANumber => none
  | .infinity sign => some (signed sign infinityRank)
  | .zero _ => some 0
  | .finite sign significand exponent _ => some (signed sign (significand * 2 ^ exponent))

def rank (x : Float) : Option ℚ := rank? x.toModel.unpack

section Nearest

variable {x y : ℚ} {n : ℕ}

theorem infinityRank_pos : 0 < infinityRank := zpow_pos two_pos 1024

theorem overflowLimit_add_le : overflowLimit + 2 ^ 100 ≤ infinityRank := by
  have least : (2 : ℚ) ^ 100 ≤ 2 ^ (970 : ℤ) := by
    rw [← zpow_natCast]
    exact zpow_le_zpow_right₀ (by norm_num) (by norm_num)
  calc overflowLimit + 2 ^ 100 ≤ (2 ^ 54 - 1) * 2 ^ (970 : ℤ) + 2 ^ (970 : ℤ) := by
        rw [overflowLimit]
        gcongr
    _ = 2 ^ (54 : ℤ) * 2 ^ (970 : ℤ) := by ring
    _ = infinityRank := (zpow_add₀ (by norm_num) _ _).symm

theorem rounded_nonneg (x : ℚ) : 0 ≤ rounded x :=
  mul_nonneg (Nat.cast_nonneg _) (zpow_nonneg zero_le_two _)

theorem rounded_le_rounded (nonneg : 0 ≤ x) (least : x ≤ y) : rounded x ≤ rounded y := by
  rcases nonneg.eq_or_lt with rfl | positive
  · rw [rounded_zero]
    exact rounded_nonneg y
  · exact rounded_mono positive least

theorem nearest_of_nonneg (nonneg : 0 ≤ x) : nearest x = min (rounded x) infinityRank :=
  if_neg (not_lt.mpr nonneg)

theorem nearest_neg (x : ℚ) : nearest (-x) = -nearest x := by
  rcases lt_trichotomy x 0 with negative | rfl | positive
  · rw [nearest_of_nonneg (by linarith), nearest, if_pos negative, neg_neg]
  · rw [neg_zero, nearest_of_nonneg le_rfl, rounded_zero, min_eq_left infinityRank_pos.le, neg_zero]
  · rw [nearest_of_nonneg positive.le, nearest, if_pos (by linarith), neg_neg]

theorem nearest_nonneg (nonneg : 0 ≤ x) : 0 ≤ nearest x := by
  rw [nearest_of_nonneg nonneg]
  exact le_min (rounded_nonneg x) infinityRank_pos.le

theorem nearest_mono (least : x ≤ y) : nearest x ≤ nearest y := by
  have upper {x y : ℚ} (nonneg : 0 ≤ x) (least : x ≤ y) : nearest x ≤ nearest y := by
    rw [nearest_of_nonneg nonneg, nearest_of_nonneg (nonneg.trans least)]
    exact min_le_min_right _ (rounded_le_rounded nonneg least)
  rcases le_total 0 x with nonneg | nonpos
  · exact upper nonneg least
  · rcases le_total 0 y with nonneg | nonpos'
    · have below := nearest_nonneg (neg_nonneg.mpr nonpos)
      rw [nearest_neg] at below
      exact (neg_nonneg.mp below).trans (nearest_nonneg nonneg)
    · have flipped := upper (neg_nonneg.mpr nonpos') (neg_le_neg least)
      rw [nearest_neg, nearest_neg] at flipped
      exact neg_le_neg_iff.mp flipped

theorem nearest_natCast (small : n < 2 ^ 53) : nearest n = n := by
  have fits : (n : ℚ) ≤ infinityRank := by
    refine le_trans ?_ ((le_add_of_nonneg_left overflowLimit_pos.le).trans overflowLimit_add_le)
    exact_mod_cast (small.trans (by norm_num : 2 ^ 53 < 2 ^ 100)).le
  rw [nearest_of_nonneg (Nat.cast_nonneg n), rounded_natCast small, min_eq_left fits]

theorem nearest_of_large (large : overflowLimit ≤ x) : nearest x = infinityRank := by
  have above := rounded_mono overflowLimit_pos large
  rw [rounded_overflowLimit] at above
  rw [nearest_of_nonneg (overflowLimit_pos.le.trans large)]
  exact min_eq_right above

end Nearest

section Sign

variable {first second unpacked : UnpackedFloat} {x y : ℚ}

theorem signed_neg (sign : Sign) (x : ℚ) : signed (-sign) x = -signed sign x := by
  cases sign with
  | negative => exact (neg_neg x).symm
  | positive => rfl

theorem sign_mul_neg (sign other : Sign) : sign * -other = -(sign * other) := by
  cases sign <;> cases other <;> rfl

theorem unpacked_neg_neg (unpacked : UnpackedFloat) : unpacked.neg.neg = unpacked := by
  cases unpacked with
  | notANumber => rfl
  | infinity sign | zero sign | finite sign => cases sign <;> rfl

theorem rank?_neg (unpacked : UnpackedFloat) :
    rank? unpacked.neg = (rank? unpacked).map fun x => -x := by
  cases unpacked with
  | notANumber => rfl
  | zero => exact congrArg some neg_zero.symm
  | infinity sign | finite sign => exact congrArg some (signed_neg sign _)

theorem roundWithAccuracy_neg (sign : Sign) (significand : ℕ) (exponent : ℤ)
    (accuracy : UnpackedFloat.Accuracy) :
    UnpackedFloat.roundWithAccuracy .binary64 (-sign) significand exponent accuracy =
      (UnpackedFloat.roundWithAccuracy .binary64 sign significand exponent accuracy).neg := by
  simp only [UnpackedFloat.roundWithAccuracy]
  split <;> rfl

theorem mul_neg_unpacked (first second : UnpackedFloat) :
    UnpackedFloat.mul .binary64 first second.neg =
      (UnpackedFloat.mul .binary64 first second).neg := by
  cases first with
  | notANumber => rfl
  | infinity sign =>
      cases second with
      | notANumber | zero => rfl
      | infinity other | finite other =>
          exact congrArg UnpackedFloat.infinity (sign_mul_neg sign other)
  | zero sign =>
      cases second with
      | notANumber | infinity => rfl
      | zero other | finite other => exact congrArg UnpackedFloat.zero (sign_mul_neg sign other)
  | finite sign significand exponent =>
      cases second with
      | notANumber => rfl
      | infinity other => exact congrArg UnpackedFloat.infinity (sign_mul_neg sign other)
      | zero other => exact congrArg UnpackedFloat.zero (sign_mul_neg sign other)
      | finite other significand' exponent' =>
          change UnpackedFloat.roundWithAccuracy .binary64 (sign * -other) _ _ _ = _
          rw [sign_mul_neg, roundWithAccuracy_neg]
          rfl

theorem unpack_packComponents_neg (sign : Sign) (exponent : BitVec 11) (fraction : BitVec 52) :
    UnpackedFloat.unpack .binary64
        (UnpackedFloat.packComponents .binary64 (-sign) exponent fraction) =
      (UnpackedFloat.unpack .binary64
        (UnpackedFloat.packComponents .binary64 sign exponent fraction)).neg := by
  have bit (sign : Sign) : Sign.ofBitVec sign.toBitVec = sign := by cases sign <;> rfl
  simp only [UnpackedFloat.unpack, UnpackedFloat.unpackExponent_packComponents,
    UnpackedFloat.unpackMantissa_packComponents, unpackSign_packComponents, bit]
  split_ifs <;> rfl

/-- The bits of a number and of its negative differ in the sign only. -/
theorem unpack_pack_neg (unpacked : UnpackedFloat) :
    (Float.Model.pack unpacked.neg).unpack = (Float.Model.pack unpacked).unpack.neg := by
  change UnpackedFloat.unpack .binary64 (UnpackedFloat.pack .binary64 unpacked.neg) =
    (UnpackedFloat.unpack .binary64 (UnpackedFloat.pack .binary64 unpacked)).neg
  cases unpacked with
  | notANumber => rfl
  | infinity sign | zero sign => exact unpack_packComponents_neg sign _ _
  | finite sign significand exponent =>
      simp only [UnpackedFloat.neg, UnpackedFloat.pack]
      split_ifs <;> exact unpack_packComponents_neg sign _ _

theorem Holds.rank?_eq (holds : Holds unpacked x) : rank? unpacked = some x := by
  cases holds <;> rfl

/-- What is written for a rounded number stands at the nearest number. -/
theorem rank?_pack (nonneg : 0 ≤ x) (holds : Holds unpacked (rounded x)) :
    rank? (Float.Model.pack unpacked).unpack = some (nearest x) := by
  rw [nearest_of_nonneg nonneg]
  rcases lt_or_ge (rounded x) infinityRank with fits | large
  · rw [unpack_pack_of_holds holds fits, holds.rank?_eq, min_eq_left fits.le]
  · rw [unpack_pack_of_large holds large, min_eq_right large]
    rfl

theorem rank?_pack_neg (nonneg : 0 ≤ x) (holds : Holds unpacked.neg (rounded x)) :
    rank? (Float.Model.pack unpacked).unpack = some (nearest (-x)) := by
  rw [← unpacked_neg_neg unpacked, unpack_pack_neg, rank?_neg, rank?_pack nonneg holds, nearest_neg]
  rfl

end Sign

section Difference

variable {first second : UnpackedFloat} {x y : ℚ}

/-- A difference of two significands is rounded on the side of the larger one. -/
theorem holds_normalize_sub (a b : ℕ) (place : ℤ) :
    (b ≤ a → Holds (UnpackedFloat.normalize .binary64 ((a : ℤ) - b) place .positive)
        (rounded (a * 2 ^ place - b * 2 ^ place))) ∧
      (a < b → Holds (UnpackedFloat.normalize .binary64 ((a : ℤ) - b) place .positive).neg
        (rounded (b * 2 ^ place - a * 2 ^ place))) := by
  constructor
  · intro least
    have whole : (a : ℤ) - b = (a - b : ℕ) := by omega
    rw [whole, ← sub_mul, ← Nat.cast_sub least]
    rcases Nat.eq_zero_or_pos (a - b) with same | positive
    · rw [same, Nat.cast_zero, Nat.cast_zero, zero_mul, rounded_zero]
      exact .zero
    · rw [normalize_of_pos positive]
      exact holds_round positive place
  · intro less
    have whole : (a : ℤ) - b = -((b - a : ℕ) : ℤ) := by omega
    have positive : 0 < b - a := Nat.sub_pos_of_lt less
    have below : compare (-((b - a : ℕ) : ℤ)) 0 = .lt := by
      rw [Int.compare_eq_lt]
      omega
    have flipped : (UnpackedFloat.round .binary64 .negative (b - a) place).neg =
        UnpackedFloat.round .binary64 .positive (b - a) place :=
      (roundWithAccuracy_neg .negative _ _ _).symm
    rw [whole, ← sub_mul, ← Nat.cast_sub less.le, UnpackedFloat.normalize, below, neg_neg,
      Int.toNat_natCast]
    exact flipped ▸ holds_round positive place

/-- Adding the negative of a number gives the rounded difference, with the sign that it has. -/
theorem Holds.add_neg (holds : Holds first x) (holds' : Holds second y) :
    (y ≤ x → Holds (UnpackedFloat.add .binary64 first second.neg) (rounded (x - y))) ∧
      (x < y → Holds (UnpackedFloat.add .binary64 first second.neg).neg (rounded (y - x))) := by
  have alone := holds.rounded_eq
  have alone' := holds'.rounded_eq
  have nonneg := holds.nonneg
  cases holds' with
  | zero =>
      rw [sub_zero, alone]
      refine ⟨fun _ => ?_, fun less => absurd nonneg (not_le.mpr less)⟩
      cases holds with
      | zero => exact .zero
      | finite positive small least normal => exact .finite positive small least normal
  | @finite significand' exponent' positive' small' least' normal' =>
      cases holds with
      | zero =>
          have positive : (0 : ℚ) < significand' * 2 ^ exponent' := by positivity
          rw [sub_zero, alone']
          exact ⟨fun most => absurd positive (not_lt.mpr most),
            fun _ => .finite positive' small' least' normal'⟩
      | @finite significand exponent positive small least normal =>
          -- at the lower of the two places both are whole
          have aligned := shiftLeft_mul_pow significand (min_le_left exponent exponent')
          have aligned' := shiftLeft_mul_pow significand' (min_le_right exponent exponent')
          have power : (0 : ℚ) < 2 ^ min exponent exponent' := by positivity
          have difference := holds_normalize_sub
            (significand <<< (exponent - min exponent exponent').toNat)
            (significand' <<< (exponent' - min exponent exponent').toNat) (min exponent exponent')
          rw [← aligned, ← aligned', mul_le_mul_iff_left₀ power, mul_lt_mul_iff_left₀ power,
            Nat.cast_le, Nat.cast_lt]
          exact difference

end Difference

section Rank

variable {unpacked first second : UnpackedFloat} {x y : Float} {value other : ℚ}

/-- What an unpacked number can be; each number is one from zero on or the negative of one. -/
inductive Form : UnpackedFloat → Prop where
  | notANumber : Form .notANumber
  | infinite (sign : Sign) : Form (.infinity sign)
  | number {unpacked : UnpackedFloat} {value : ℚ} (holds : Holds unpacked value)
      (fits : value < infinityRank) : Form unpacked
  | negative {unpacked : UnpackedFloat} {value : ℚ} (holds : Holds unpacked value)
      (fits : value < infinityRank) : Form unpacked.neg

theorem form_unpack (x : Float) : Form x.toModel.unpack := by
  cases unpacked : x.toModel.unpack with
  | notANumber => exact .notANumber
  | infinity sign => exact .infinite sign
  | zero sign =>
      cases sign with
      | negative => exact .negative .zero infinityRank_pos
      | positive => exact .number .zero infinityRank_pos
  | finite sign significand exponent positive =>
      obtain ⟨small, least, most, normal⟩ := shape_of_unpack unpacked
      have holds : Holds (.finite .positive significand exponent positive)
          (significand * 2 ^ exponent) := .finite positive small least normal
      have fits : (significand : ℚ) * 2 ^ exponent < infinityRank :=
        mul_pow_lt small (by omega)
      cases sign with
      | negative => exact .negative holds fits
      | positive => exact .number holds fits

theorem IsNumber.rank_eq (number : IsNumber x value) : rank x = some value :=
  Holds.rank?_eq number

theorem rank?_pack_infinity (sign : Sign) :
    rank? (Float.Model.pack (.infinity sign)).unpack = some (signed sign infinityRank) := by
  cases sign <;> rfl

theorem Holds.mul_infinity (holds : Holds unpacked value) (positive : 0 < value) (sign : Sign) :
    UnpackedFloat.mul .binary64 unpacked (.infinity sign) = .infinity sign := by
  cases holds with
  | zero => exact absurd positive (lt_irrefl 0)
  | finite => cases sign <;> rfl

theorem Holds.add_infinity (holds : Holds unpacked value) (sign : Sign) :
    UnpackedFloat.add .binary64 unpacked (.infinity sign) = .infinity sign := by
  cases holds <;> rfl

/-- A product with a number from one on stands at the exact product, rounded. -/
theorem IsNumber.rank_mul (number : IsNumber x value) (least : 1 ≤ value) (y : Float) :
    rank (x * y) = (rank y).map fun other => nearest (value * other) := by
  unfold IsNumber at number
  change rank? (Float.Model.pack
    (UnpackedFloat.mul .binary64 x.toModel.unpack y.toModel.unpack)).unpack = _
  unfold rank
  have form := form_unpack y
  generalize x.toModel.unpack = first at number
  generalize y.toModel.unpack = second at form
  cases form with
  | notANumber =>
      have nothing : UnpackedFloat.mul .binary64 first .notANumber = .notANumber := by
        cases first <;> rfl
      rw [nothing]
      rfl
  | infinite sign =>
      have limit := overflowLimit_add_le
      -- what lies further out than infinity is held there
      have large : nearest (value * infinityRank) = infinityRank := by
        refine nearest_of_large ?_
        calc overflowLimit ≤ infinityRank := by linarith
          _ ≤ value * infinityRank := le_mul_of_one_le_left infinityRank_pos.le least
      have ends : nearest (value * signed sign infinityRank) = signed sign infinityRank := by
        cases sign with
        | negative => rw [signed, mul_neg, nearest_neg, large]
        | positive => exact large
      rw [number.mul_infinity (by linarith), rank?_pack_infinity, rank?, Option.map_some, ends]
  | number holds =>
      rw [rank?_pack (mul_nonneg number.nonneg holds.nonneg) (number.mul holds), holds.rank?_eq]
      rfl
  | negative holds =>
      rw [mul_neg_unpacked, unpack_pack_neg, rank?_neg, rank?_neg,
        rank?_pack (mul_nonneg number.nonneg holds.nonneg) (number.mul holds), holds.rank?_eq]
      simp only [Option.map_some, mul_neg, nearest_neg]

theorem Holds.eq_zero (holds : Holds unpacked value) (nothing : value = 0) :
    unpacked = .zero .positive := by
  cases holds with
  | zero => rfl
  | finite positive => exact absurd nothing (by positivity)

theorem IsNumber.rank_zero_mul (number : IsNumber x 0) (y : Float) :
    rank (x * y) = if y.isFinite then some 0 else none := by
  change rank? (Float.Model.pack
    (UnpackedFloat.mul .binary64 x.toModel.unpack y.toModel.unpack)).unpack =
      if y.toModel.unpack.isFinite then some 0 else none
  rw [Holds.eq_zero number rfl]
  cases y.toModel.unpack with
  | notANumber => rfl
  | infinity sign =>
      have nothing : UnpackedFloat.mul .binary64 (.zero .positive) (.infinity sign) =
          .notANumber := rfl
      rw [nothing]
      rfl
  | zero sign => cases sign <;> rfl
  | finite sign significand exponent positive =>
      have zero : UnpackedFloat.mul .binary64 (.zero .positive)
          (.finite sign significand exponent positive) = .zero (.positive * sign) := rfl
      rw [zero]
      cases sign <;> rfl

/-- A sum with a number stands at the exact sum, rounded. -/
theorem IsNumber.rank_add (number : IsNumber x value) (small : value ≤ 2 ^ 100) (y : Float) :
    rank (x + y) = (rank y).map fun other => nearest (value + other) := by
  unfold IsNumber at number
  change rank? (Float.Model.pack
    (UnpackedFloat.add .binary64 x.toModel.unpack y.toModel.unpack)).unpack = _
  unfold rank
  have form := form_unpack y
  generalize x.toModel.unpack = first at number
  generalize y.toModel.unpack = second at form
  have nonneg := number.nonneg
  cases form with
  | notANumber =>
      have nothing : UnpackedFloat.add .binary64 first .notANumber = .notANumber := by
        cases first <;> rfl
      rw [nothing]
      rfl
  | infinite sign =>
      have limit := overflowLimit_add_le
      have ends : nearest (value + signed sign infinityRank) = signed sign infinityRank := by
        cases sign with
        | negative =>
            have flipped : value + -infinityRank = -(infinityRank - value) := by ring
            rw [signed, flipped, nearest_neg, nearest_of_large (by linarith)]
        | positive => exact nearest_of_large (by rw [signed]; linarith)
      rw [number.add_infinity, rank?_pack_infinity, rank?, Option.map_some, ends]
  | number holds =>
      rw [rank?_pack (add_nonneg nonneg holds.nonneg) (number.add holds), holds.rank?_eq]
      rfl
  | @negative _ other holds =>
      rw [rank?_neg, holds.rank?_eq, Option.map_some, Option.map_some, ← sub_eq_add_neg]
      rcases le_or_gt other value with least | less
      · exact rank?_pack (sub_nonneg.mpr least) ((number.add_neg holds).1 least)
      · rw [rank?_pack_neg (sub_nonneg.mpr less.le) ((number.add_neg holds).2 less), neg_sub]

theorem IsNumber.sub (number : IsNumber x value) (number' : IsNumber y other)
    (least : other ≤ value) : Rounds (x - y) (value - other) := by
  have same : UnpackedFloat.sub .binary64 x.toModel.unpack y.toModel.unpack =
      UnpackedFloat.add .binary64 x.toModel.unpack y.toModel.unpack.neg := by
    unfold IsNumber at number number'
    generalize x.toModel.unpack = first at number
    generalize y.toModel.unpack = second at number'
    cases number <;> cases number' <;> rfl
  refine rounds_pack (sub_nonneg.mpr least) ?_
  rw [same]
  exact (Holds.add_neg number number').1 least

end Rank

section Order

variable {first second : UnpackedFloat} {x y : ℚ}

theorem Holds.le_of_le (holds : Holds first x) (holds' : Holds second y)
    (ordered : UnpackedFloat.le first second) : x ≤ y := by
  cases holds with
  | zero => exact holds'.nonneg
  | @finite significand exponent positive small least normal =>
      cases holds' with
      | zero => simp [UnpackedFloat.le, UnpackedFloat.compare] at ordered
      | @finite significand' exponent' positive' small' least' normal' =>
          change ((compare exponent exponent').then (compare significand significand')).isLE
            at ordered
          rcases lt_trichotomy exponent exponent' with less | rfl | more
          · -- above the least place a significand has all its bits, so the place decides
            have large : 2 ^ 52 ≤ significand' := normal'.resolve_right (by omega)
            calc (significand * 2 ^ exponent : ℚ) ≤ 2 ^ 53 * 2 ^ exponent := by
                  gcongr
                  exact_mod_cast small.le
              _ = 2 ^ 52 * 2 ^ (exponent + 1) := by rw [zpow_add_one₀ (by norm_num)]; ring
              _ ≤ significand' * 2 ^ exponent' := by
                  gcongr
                  · exact_mod_cast large
                  · norm_num
                  · omega
          · rw [Int.compare_eq_eq.mpr rfl, Ordering.eq_then, Nat.isLE_compare] at ordered
            gcongr
          · rw [Int.compare_eq_gt.mpr more] at ordered
            contradiction

theorem Holds.le_neg_neg (holds : Holds first x) (holds' : Holds second y) :
    UnpackedFloat.le first.neg second.neg = UnpackedFloat.le second first := by
  cases holds with
  | zero => cases holds' <;> rfl
  | @finite significand exponent =>
      cases holds' with
      | zero => rfl
      | @finite significand' exponent' =>
          have swapped : ((compare exponent exponent').then
              (compare significand significand')).swap =
                (compare exponent' exponent).then (compare significand' significand) := by
            rw [Ordering.swap_then, Int.compare_swap, Nat.compare_swap]
          exact congrArg Ordering.isLE swapped

/-- Only zero is both a number from zero on and the negative of one. -/
theorem Holds.eq_zero_of_le_neg (holds : Holds first x) (holds' : Holds second y)
    (ordered : UnpackedFloat.le first second.neg) : x = 0 ∧ y = 0 := by
  cases holds with
  | zero =>
      cases holds' with
      | zero => exact ⟨rfl, rfl⟩
      | finite => exact absurd ordered Bool.false_ne_true
  | finite => cases holds' <;> exact absurd ordered Bool.false_ne_true

theorem Holds.rank?_neg_eq (holds : Holds first x) : rank? first.neg = some (-x) := by
  rw [rank?_neg, holds.rank?_eq]
  rfl

theorem Form.eq_of_infinity_le (form : Form second)
    (ordered : UnpackedFloat.le (.infinity .positive) second) : second = .infinity .positive := by
  cases form with
  | notANumber => exact absurd ordered Bool.false_ne_true
  | infinite sign =>
      cases sign with
      | negative => exact absurd ordered Bool.false_ne_true
      | positive => rfl
  | number holds => cases holds <;> exact absurd ordered Bool.false_ne_true
  | negative holds => cases holds <;> exact absurd ordered Bool.false_ne_true

theorem Form.eq_of_le_infinity (form : Form first)
    (ordered : UnpackedFloat.le first (.infinity .negative)) : first = .infinity .negative := by
  cases form with
  | notANumber => exact absurd ordered Bool.false_ne_true
  | infinite sign =>
      cases sign with
      | negative => rfl
      | positive => exact absurd ordered Bool.false_ne_true
  | number holds => cases holds <;> exact absurd ordered Bool.false_ne_true
  | negative holds => cases holds <;> exact absurd ordered Bool.false_ne_true

theorem rank?_top : rank? (.infinity .positive) = some infinityRank := rfl

theorem rank?_bottom : rank? (.infinity .negative) = some (-infinityRank) := rfl

theorem Form.exists_rank (form : Form first) (isNumber : first ≠ .notANumber) :
    ∃ x, rank? first = some x ∧ -infinityRank ≤ x ∧ x ≤ infinityRank := by
  have positive := infinityRank_pos
  cases form with
  | notANumber => exact absurd rfl isNumber
  | infinite sign =>
      cases sign with
      | negative => exact ⟨-infinityRank, rfl, le_rfl, by linarith⟩
      | positive => exact ⟨infinityRank, rfl, by linarith, le_rfl⟩
  | @number _ x holds fits =>
      exact ⟨x, holds.rank?_eq, by linarith [holds.nonneg], fits.le⟩
  | @negative _ x holds fits =>
      exact ⟨-x, holds.rank?_neg_eq, by linarith, by linarith [holds.nonneg]⟩

/-- What is neither infinite nor not a number is a number from zero on or the negative of one. -/
theorem Form.exists_holds (form : Form first) (isNumber : first ≠ .notANumber)
    (finite : ∀ sign, first ≠ .infinity sign) :
    ∃ magnitude x, Holds magnitude x ∧
      (first = magnitude ∧ rank? first = some x ∨
        first = magnitude.neg ∧ rank? first = some (-x)) := by
  cases form with
  | notANumber => exact absurd rfl isNumber
  | infinite sign => exact absurd rfl (finite sign)
  | @number _ x holds => exact ⟨_, x, holds, .inl ⟨rfl, holds.rank?_eq⟩⟩
  | @negative unpacked x holds => exact ⟨unpacked, x, holds, .inr ⟨rfl, holds.rank?_neg_eq⟩⟩

/-- The order of the format is that of the places at which its numbers stand. -/
theorem Form.le_of_le (form : Form first) (form' : Form second)
    (ordered : UnpackedFloat.le first second) :
    ∃ x y, rank? first = some x ∧ rank? second = some y ∧ x ≤ y := by
  have isNumber : first ≠ .notANumber := by
    rintro rfl
    exact Bool.false_ne_true ordered
  have isNumber' : second ≠ .notANumber := by
    rintro rfl
    cases first <;> exact Bool.false_ne_true ordered
  obtain ⟨x, stands, -, most⟩ := form.exists_rank isNumber
  obtain ⟨y, stands', least, -⟩ := form'.exists_rank isNumber'
  by_cases bottom : first = .infinity .negative
  · rw [bottom]
    exact ⟨-infinityRank, y, rank?_bottom, stands', least⟩
  by_cases top : second = .infinity .positive
  · rw [top]
    exact ⟨x, infinityRank, stands, rank?_top, most⟩
  -- no infinity is left on the side on which it would be in order
  have finite : ∀ sign, first ≠ .infinity sign
    | .negative => bottom
    | .positive => by
        rintro rfl
        exact top (form'.eq_of_infinity_le ordered)
  have finite' : ∀ sign, second ≠ .infinity sign
    | .positive => top
    | .negative => by
        rintro rfl
        exact bottom (form.eq_of_le_infinity ordered)
  obtain ⟨magnitude, x, holds, signs⟩ := form.exists_holds isNumber finite
  obtain ⟨magnitude', y, holds', signs'⟩ := form'.exists_holds isNumber' finite'
  rcases signs with ⟨rfl, stands⟩ | ⟨rfl, stands⟩ <;>
    rcases signs' with ⟨rfl, stands'⟩ | ⟨rfl, stands'⟩ <;> refine ⟨_, _, stands, stands', ?_⟩
  · exact holds.le_of_le holds' ordered
  · obtain ⟨rfl, rfl⟩ := holds.eq_zero_of_le_neg holds' ordered
    exact neg_zero.ge
  · linarith [holds.nonneg, holds'.nonneg]
  · rw [holds.le_neg_neg holds'] at ordered
    exact neg_le_neg (holds'.le_of_le holds ordered)

end Order

theorem rank_le_of_le {x y : Float} (ordered : x ≤ y) :
    ∃ value other, rank x = some value ∧ rank y = some other ∧ value ≤ other := by
  have below : UnpackedFloat.le x.toModel.unpack y.toModel.unpack := decide_eq_true_iff.mp ordered
  exact (form_unpack x).le_of_le (form_unpack y) below

theorem isInf_iff_of_rank {x : Float} {value : ℚ} (stands : rank x = some value) :
    x.isInf ↔ ¬ x.isFinite := by
  change x.toModel.unpack.isInf ↔ ¬ x.toModel.unpack.isFinite
  unfold rank at stands
  cases unpacked : x.toModel.unpack with
  | notANumber => simp [unpacked, rank?] at stands
  | infinity | zero | finite => simp [UnpackedFloat.isInf, UnpackedFloat.isFinite]

end EnergyReport.Number
