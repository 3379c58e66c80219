import EnergyReport.Number.Decimal
import EnergyReport.Proofs.Number.Arithmetic

namespace EnergyReport.Number

/-! Floating-point numbers as the exact numbers that their bits stand for. -/

open Float.Model (Format UnpackedFloat)

def isNegative : UnpackedFloat.Sign → Bool
  | .negative => true
  | .positive => false

def Binary64.ofUnpacked : UnpackedFloat → Binary64
  | .notANumber => .notANumber
  | .infinity sign => .infinite (isNegative sign)
  | .zero sign => .finite (isNegative sign) 0 (-1074)
  | .finite sign significand exponent _ => .finite (isNegative sign) significand exponent

theorem toNat_unpackExponent (bits : BitVec 64) :
    (@UnpackedFloat.unpackExponent .binary64 bits).toNat = (bits.toNat >>> 52) % 2048 := by
  rw [UnpackedFloat.unpackExponent, BitVec.toNat_cast, BitVec.extractLsb_toNat]
  rfl

theorem toNat_unpackMantissa (bits : BitVec 64) :
    (@UnpackedFloat.unpackMantissa .binary64 bits).toNat = bits.toNat % leadingBit := by
  rw [UnpackedFloat.unpackMantissa, BitVec.toNat_cast, BitVec.extractLsb_toNat]
  rfl

theorem toNat_unpackSign (bits : BitVec 64) :
    (@UnpackedFloat.unpackSign .binary64 bits).toNat = bits.toNat >>> 63 := by
  have short : bits.toNat >>> 63 < 2 := by
    rw [Nat.shiftRight_eq_div_pow]
    have := bits.isLt
    omega
  rw [UnpackedFloat.unpackSign, BitVec.toNat_cast, BitVec.extractLsb_toNat]
  exact Nat.mod_eq_of_lt short

theorem isNegative_unpackSign (bits : BitVec 64) :
    isNegative (.ofBitVec (@UnpackedFloat.unpackSign .binary64 bits)) =
      (bits.toNat >>> 63 == 1) := by
  rw [← toNat_unpackSign]
  generalize @UnpackedFloat.unpackSign .binary64 bits = sign
  revert sign
  decide

/-- The three parts of the bits, read as they are packed. -/
theorem Binary64.ofUnpacked_unpack (bits : BitVec 64) :
    Binary64.ofUnpacked (UnpackedFloat.unpack .binary64 bits) =
      let negative := isNegative (.ofBitVec (@UnpackedFloat.unpackSign .binary64 bits))
      let exponent := (@UnpackedFloat.unpackExponent .binary64 bits).toNat
      let fraction := (@UnpackedFloat.unpackMantissa .binary64 bits).toNat
      if exponent = 2047 then
        if fraction = 0 then .infinite negative else .notANumber
      else if exponent = 0 then .finite negative fraction (-1074)
      else .finite negative (leadingBit + fraction) ((exponent : ℤ) - 1075) := by
  have whole := toNat_append_fraction (@UnpackedFloat.unpackMantissa .binary64 bits)
  have all := BitVec.toNat_inj (x := @UnpackedFloat.unpackExponent .binary64 bits) (y := -1#11)
  have lowest := BitVec.toNat_inj (x := @UnpackedFloat.unpackExponent .binary64 bits) (y := 0#11)
  have nothing := BitVec.toNat_inj (x := @UnpackedFloat.unpackMantissa .binary64 bits) (y := 0#52)
  rw [show (-1#11).toNat = 2047 from rfl] at all
  rw [show (0#11).toNat = 0 from rfl] at lowest
  rw [show (0#52).toNat = 0 from rfl] at nothing
  simp only [UnpackedFloat.unpack, Format.exponentBias, all, lowest, nothing]
  split_ifs with isAll isNothing isLowest isZero
  · rfl
  · rfl
  · simp only [ofUnpacked, nothing.mpr isZero]
  · simp only [ofUnpacked, lowest.mpr isLowest]
    rfl
  · simp only [ofUnpacked, whole, leadingBit]
    rfl

theorem Binary64.ofFloat_eq (x : Float) :
    Binary64.ofFloat x = .ofUnpacked x.toModel.unpack := by
  rw [Float.Model.unpack, ofUnpacked_unpack, isNegative_unpackSign]
  simp only [toNat_unpackExponent, toNat_unpackMantissa]
  rfl

def Binary64.value : Binary64 → ℚ
  | .finite negative significand exponent =>
      (if negative then -1 else 1) * (significand * 2 ^ exponent)
  | _ => 0

/-- The exact value of a floating-point number. -/
def exact (x : Float) : ℚ :=
  (Binary64.ofFloat x).value

/-- The floating-point number is a number from zero on. -/
def IsNumber (x : Float) (value : ℚ) : Prop :=
  Holds x.toModel.unpack value

def IsInfinite (x : Float) : Prop :=
  x.toModel.unpack = .infinity .positive

/-- The floating-point number nearest to an exact value, or infinity where it is too large. -/
structure Rounds (x : Float) (value : ℚ) : Prop where
  finite : value < overflowLimit → IsNumber x (rounded value)
  infinite : overflowLimit ≤ value → IsInfinite x

section Number

variable {x y : Float} {value other : ℚ}

theorem unpack_zero : (0 : Float).toModel.unpack = .zero .positive := by
  rfl

theorem zero_lt_iff (x : Float) :
    0 < x ↔ UnpackedFloat.lt (.zero .positive) x.toModel.unpack := by
  rw [← unpack_zero]
  exact decide_eq_true_iff

theorem IsNumber.exact_eq (number : IsNumber x value) : exact x = value := by
  rw [exact, Binary64.ofFloat_eq]
  unfold IsNumber at number
  generalize x.toModel.unpack = unpacked at number
  cases number <;> simp [Binary64.ofUnpacked, Binary64.value, isNegative]

theorem IsNumber.isFinite (number : IsNumber x value) : x.isFinite := by
  change x.toModel.unpack.isFinite
  unfold IsNumber at number
  generalize x.toModel.unpack = unpacked at number
  cases number <;> rfl

theorem IsInfinite.not_isFinite (infinite : IsInfinite x) : ¬ x.isFinite := by
  change ¬ x.toModel.unpack.isFinite
  rw [infinite]
  decide

theorem IsNumber.zero_lt_iff (number : IsNumber x value) : 0 < x ↔ 0 < value := by
  rw [Number.zero_lt_iff]
  unfold IsNumber at number
  generalize x.toModel.unpack = unpacked at number
  cases number with
  | zero => exact iff_of_false (by decide) (lt_irrefl 0)
  | finite positive => exact iff_of_true rfl (by positivity)

/-- A finite number above zero is what its bits say. -/
theorem isNumber_exact (finite : x.isFinite) (positive : 0 < x) : IsNumber x (exact x) := by
  rw [Number.zero_lt_iff] at positive
  change x.toModel.unpack.isFinite at finite
  cases unpacked : x.toModel.unpack with
  | infinity sign => simp [unpacked, UnpackedFloat.isFinite] at finite
  | notANumber => simp [unpacked, UnpackedFloat.isFinite] at finite
  | zero sign => simp [unpacked, UnpackedFloat.lt, UnpackedFloat.compare] at positive
  | finite sign significand exponent some =>
      cases sign with
      | negative => simp [unpacked, UnpackedFloat.lt, UnpackedFloat.compare] at positive
      | positive =>
          obtain ⟨small, least, _, normal⟩ := shape_of_unpack unpacked
          have holds : IsNumber x (significand * 2 ^ exponent) := by
            rw [IsNumber, unpacked]
            exact .finite some small least normal
          rwa [holds.exact_eq]

theorem IsNumber.nonneg (number : IsNumber x value) : 0 ≤ value :=
  Holds.nonneg number

theorem IsNumber.lt_overflowLimit (number : IsNumber x value) : value < overflowLimit := by
  rw [← rounded_lt_iff number.nonneg, Holds.rounded_eq number]
  unfold IsNumber at number
  cases unpacked : x.toModel.unpack with
  | infinity => rw [unpacked] at number; cases number
  | notANumber => rw [unpacked] at number; cases number
  | zero => rw [unpacked] at number; cases number; positivity
  | finite =>
      have shape := shape_of_unpack unpacked
      rw [unpacked] at number
      cases number
      exact mul_pow_lt shape.1 (by omega)

/-- The least number above zero. -/
theorem IsNumber.least (number : IsNumber x value) (positive : 0 < value) :
    2 ^ (-1074 : ℤ) ≤ value := by
  unfold IsNumber at number
  generalize x.toModel.unpack = unpacked at number
  cases number with
  | zero => exact absurd positive (lt_irrefl 0)
  | @finite significand exponent some small least normal =>
      calc (2 : ℚ) ^ (-1074 : ℤ) ≤ 2 ^ exponent := zpow_le_zpow_right₀ (by norm_num) least
        _ ≤ significand * 2 ^ exponent := by
          apply le_mul_of_one_le_left (by positivity)
          exact_mod_cast some

/-- A number above zero does not vanish when it is enlarged. -/
theorem IsNumber.rounded_mul_pos_iff (number : IsNumber x value) {factor : ℚ}
    (least : 1 ≤ factor) : 0 < rounded (value * factor) ↔ 0 < value := by
  rw [rounded_pos_iff (mul_nonneg number.nonneg (zero_le_one.trans least))]
  constructor
  · intro above
    have positive := (zpow_pos two_pos _).trans above
    exact pos_of_mul_pos_left positive (zero_le_one.trans least)
  · intro some
    calc (2 : ℚ) ^ (-1075 : ℤ) < 2 ^ (-1074 : ℤ) :=
          zpow_lt_zpow_right₀ (by norm_num) (by norm_num)
      _ ≤ value := number.least some
      _ ≤ value * factor := le_mul_of_one_le_right some.le least

theorem rounds_pack {unpacked : UnpackedFloat} (nonneg : 0 ≤ value)
    (holds : Holds unpacked (rounded value)) : Rounds (.ofModel (.pack unpacked)) value where
  finite below := by
    have fits := (rounded_lt_iff nonneg).mpr below
    rwa [IsNumber, unpack_pack_of_holds holds fits]
  infinite limit := by
    have large : 2 ^ (1024 : ℤ) ≤ rounded value := by
      rw [← not_lt, rounded_lt_iff nonneg, not_lt]
      exact limit
    exact unpack_pack_of_large holds large

theorem IsNumber.add (number : IsNumber x value) (number' : IsNumber y other) :
    Rounds (x + y) (value + other) :=
  rounds_pack (add_nonneg number.nonneg number'.nonneg) (Holds.add number number')

theorem IsNumber.mul (number : IsNumber x value) (number' : IsNumber y other) :
    Rounds (x * y) (value * other) :=
  rounds_pack (mul_nonneg number.nonneg number'.nonneg) (Holds.mul number number')

theorem IsNumber.div (number : IsNumber x value) (number' : IsNumber y other)
    (positive : 0 < other) : Rounds (x / y) (value / other) :=
  rounds_pack (div_nonneg number.nonneg number'.nonneg) (Holds.div number number' positive)

theorem IsInfinite.add (infinite : IsInfinite x) (number : IsNumber y value) :
    IsInfinite (x + y) := by
  have sum : UnpackedFloat.add .binary64 x.toModel.unpack y.toModel.unpack =
      .infinity .positive := by
    unfold IsNumber at number
    rw [infinite]
    generalize y.toModel.unpack = unpacked at number
    cases number <;> rfl
  change (Float.Model.pack _).unpack = _
  rw [sum]
  rfl

theorem IsNumber.div_infinite (number : IsNumber x value) (infinite : IsInfinite y) :
    IsNumber (x / y) 0 := by
  have quotient : UnpackedFloat.div .binary64 x.toModel.unpack y.toModel.unpack =
      .zero .positive := by
    unfold IsNumber at number
    rw [infinite]
    generalize x.toModel.unpack = unpacked at number
    cases number <;> rfl
  change Holds (Float.Model.pack _).unpack 0
  rw [quotient]
  exact .zero

theorem IsInfinite.div (infinite : IsInfinite x) (number : IsNumber y value) :
    IsInfinite (x / y) := by
  have quotient : UnpackedFloat.div .binary64 x.toModel.unpack y.toModel.unpack =
      .infinity .positive := by
    unfold IsNumber at number
    rw [infinite]
    generalize y.toModel.unpack = unpacked at number
    cases number <;> rfl
  change (Float.Model.pack _).unpack = _
  rw [quotient]
  rfl

end Number

section Whole

variable {x : Float} {value : ℚ} {n : ℕ}

theorem isNumber_zero : IsNumber 0 0 := by
  rw [IsNumber, unpack_zero]
  exact .zero

theorem isNumber_one : IsNumber (Float.ofBits 0x3FF0000000000000) 1 := by
  have holds :
      Holds (.finite .positive (2 ^ 52) (-52) (by decide)) ((2 ^ 52 : ℕ) * 2 ^ (-52 : ℤ)) :=
    .finite _ (by norm_num) (by norm_num) (.inl le_rfl)
  have same : ((2 ^ 52 : ℕ) : ℚ) * 2 ^ (-52 : ℤ) = 1 := by norm_num
  rw [IsNumber, unpack_one]
  rwa [same] at holds

theorem natCast_lt_overflowLimit (small : n < 2 ^ 53) : (n : ℚ) < overflowLimit := by
  refine lt_of_lt_of_le ?_ large_overflowLimit
  exact_mod_cast small.trans (by norm_num : 2 ^ 53 < 2 ^ 100)

/-- Nothing is lost where the exact value is a whole number of 53 bits. -/
theorem Rounds.isNumber_natCast (rounds : Rounds x n) (small : n < 2 ^ 53) : IsNumber x n := by
  have number := rounds.finite (natCast_lt_overflowLimit small)
  rwa [rounded_natCast small] at number

theorem isNumber_ofNat (small : n < 2 ^ 53) : IsNumber (Float.ofNat n) n := by
  have fast : Float.ofNat n = n.toUInt64.toFloat * Float.ofBits 0x3FF0000000000000 := by
    change Float.ofScientific n false 0 = _
    rw [Float.ofScientific, dif_pos ⟨small, by decide⟩]
    rfl
  have whole : n.toUInt64.toNat = n := UInt64.toNat_ofNat_of_lt' (small.trans (by decide))
  have converted : IsNumber n.toUInt64.toFloat n := by
    have holds : Holds (UnpackedFloat.ofNat .binary64 n.toUInt64.toNat) (rounded n) := by
      rw [whole, rounded_natCast small]
      exact holds_ofNat small
    exact (rounds_pack (Nat.cast_nonneg n) holds).isNumber_natCast small
  have product := converted.mul isNumber_one
  rw [mul_one, ← fast] at product
  exact product.isNumber_natCast small

theorem isNumber_hundred : IsNumber 100 100 :=
  isNumber_ofNat (n := 100) (by norm_num)

theorem isNumber_circle : IsNumber 360 360 :=
  isNumber_ofNat (n := 360) (by norm_num)

end Whole

section Round

variable {x : Float} {value : ℚ}

theorem IsNumber.exists_ofFloat_eq (number : IsNumber x value) :
    ∃ significand exponent, Binary64.ofFloat x = .finite false significand exponent ∧
      significand < 2 ^ 53 ∧ value = significand * 2 ^ exponent := by
  rw [Binary64.ofFloat_eq]
  unfold IsNumber at number
  generalize x.toModel.unpack = unpacked at number
  cases number with
  | zero => exact ⟨0, -1074, rfl, by norm_num, by simp⟩
  | @finite significand exponent _ small => exact ⟨significand, exponent, rfl, small, rfl⟩

theorem IsInfinite.ofFloat_eq (infinite : IsInfinite x) :
    Binary64.ofFloat x = .infinite false := by
  rw [Binary64.ofFloat_eq, infinite]
  rfl

theorem IsInfinite.round_eq (infinite : IsInfinite x) : round x = x := by
  rw [round, infinite.ofFloat_eq]

theorem roundMagnitude_lt {significand : ℕ} (small : significand < 2 ^ 53) (below : ℕ) :
    roundMagnitude significand (.negSucc below) < 2 ^ 53 := by
  have least : 1 ≤ 2 ^ below := Nat.one_le_two_pow
  rw [roundMagnitude, Nat.shiftRight_eq_div_pow, Nat.shiftLeft_eq, one_mul,
    Nat.div_lt_iff_lt_mul (Nat.two_pow_pos _), pow_succ]
  omega

theorem floor_natCast_add_half (n : ℕ) : ⌊(n : ℚ) + 1 / 2⌋₊ = n := by
  rw [Nat.floor_eq_iff (by positivity)]
  constructor <;> linarith

theorem roundMagnitude_ofNat (significand shift : ℕ) :
    (roundMagnitude significand (.ofNat shift) : ℚ) = significand * 2 ^ (Int.ofNat shift) := by
  rw [roundMagnitude, Nat.shiftLeft_eq]
  push_cast
  rfl

/-- The nearest whole number is the whole part of a half more. -/
theorem roundMagnitude_eq_floor (significand : ℕ) (exponent : ℤ) :
    roundMagnitude significand exponent = ⌊(significand : ℚ) * 2 ^ exponent + 1 / 2⌋₊ := by
  cases exponent with
  | ofNat shift => rw [← roundMagnitude_ofNat, floor_natCast_add_half]
  | negSucc below =>
      have quotient : (significand : ℚ) * 2 ^ (Int.negSucc below) + 1 / 2 =
          (significand + 2 ^ below : ℕ) / (2 ^ (below + 1) : ℕ) := by
        rw [zpow_negSucc]
        push_cast
        field_simp
        ring
      rw [roundMagnitude, Nat.shiftRight_eq_div_pow, Nat.shiftLeft_eq, one_mul, quotient,
        Nat.floor_div_eq_div]

/-- Rounding gives the whole part of a half more, which is a number of the format as well. -/
theorem IsNumber.round_floor (number : IsNumber x value) :
    IsNumber (round x) (⌊value + 1 / 2⌋₊ : ℕ) := by
  obtain ⟨significand, exponent, parts, small, rfl⟩ := number.exists_ofFloat_eq
  rw [← roundMagnitude_eq_floor, round, parts]
  cases exponent with
  | ofNat shift =>
      rw [roundMagnitude_ofNat]
      exact number
  | negSucc below => exact isNumber_ofNat (roundMagnitude_lt small below)

/-- Rounding to a whole number changes only numbers of less than 53 bits. -/
theorem IsNumber.exists_round (number : IsNumber x value) :
    ∃ whole, IsNumber (round x) whole ∧ (whole = value ∨ whole < 2 ^ 53 ∧ value < 2 ^ 53) := by
  refine ⟨_, number.round_floor, ?_⟩
  obtain ⟨significand, exponent, _, small, rfl⟩ := number.exists_ofFloat_eq
  rw [← roundMagnitude_eq_floor]
  cases exponent with
  | ofNat shift => exact .inl (roundMagnitude_ofNat significand shift)
  | negSucc below =>
      refine .inr ⟨by exact_mod_cast roundMagnitude_lt small below, ?_⟩
      have least : (1 : ℚ) ≤ 2 ^ (below + 1) := one_le_pow₀ (by norm_num)
      rw [zpow_negSucc, ← div_eq_mul_inv, div_lt_iff₀ (by positivity)]
      calc (significand : ℚ) < 2 ^ 53 := by exact_mod_cast small
        _ ≤ 2 ^ 53 * 2 ^ (below + 1) := le_mul_of_one_le_right (by norm_num) least

end Round

section Text

variable {x : Float} {value : ℚ}

theorem showCoordinate_of_isNumber (number : IsNumber (round (x * 100) / 100) value) :
    ∃ count, showCoordinate x = showHundredths count := by
  obtain ⟨significand, exponent, parts, _, _⟩ := number.exists_ofFloat_eq
  rw [showCoordinate, parts]
  by_cases zero : significand = 0
  · exact ⟨0, by simp [zero]; rfl⟩
  · exact ⟨hundredths significand exponent, by simp [zero]⟩

/-- A coordinate is written with digits, unless a hundred times as much is too large. -/
theorem IsNumber.exists_showCoordinate_eq (number : IsNumber x value)
    (fits : 100 * value < overflowLimit) :
    ∃ count, showCoordinate x = showHundredths count := by
  have product := (number.mul isNumber_hundred).finite (by rwa [mul_comm])
  obtain ⟨whole, isWhole, same⟩ := product.exists_round
  have below : whole < overflowLimit := by
    rcases same with rfl | ⟨small, -⟩
    · exact product.lt_overflowLimit
    · exact (small.trans (by norm_num)).trans_le large_overflowLimit
  have quotient := (isWhole.div isNumber_hundred (by norm_num)).finite
    ((div_le_self isWhole.nonneg (by norm_num)).trans_lt below)
  exact showCoordinate_of_isNumber quotient

theorem hundredths_of_whole {significand n : ℕ} {exponent : ℤ}
    (whole : (n : ℚ) = significand * 2 ^ exponent) : hundredths significand exponent = n * 100 := by
  cases exponent with
  | ofNat shift =>
      rw [Int.ofNat_eq_natCast, zpow_natCast] at whole
      have same : n = significand * 2 ^ shift := by exact_mod_cast whole
      rw [hundredths, Nat.shiftLeft_eq, same]
  | negSucc below =>
      have same : significand * 100 = n * 100 * 2 ^ (below + 1) := by
        rw [zpow_negSucc, eq_mul_inv_iff_mul_eq₀ (by positivity)] at whole
        have exactly : significand = n * 2 ^ (below + 1) := by exact_mod_cast whole.symm
        rw [exactly]
        ring
      have positive : 0 < 2 ^ (below + 1) := Nat.two_pow_pos _
      rw [hundredths, Nat.shiftLeft_eq, one_mul, same]
      simp [divideToEven, positive]

theorem showHundredths_of_whole (n : ℕ) : showHundredths (n * 100) = toString n := by
  simp [showHundredths]

/-- A whole number is written as its digits, where a hundred times as much is exact. -/
theorem showCoordinate_of_whole {n : ℕ} (number : IsNumber x n) (small : n ≤ 2 ^ 46) :
    showCoordinate x = toString n := by
  have cast : (n : ℚ) * 100 = (n * 100 : ℕ) := by
    push_cast
    rfl
  have product : IsNumber (x * 100) (n * 100 : ℕ) := by
    have rounds := number.mul isNumber_hundred
    rw [cast] at rounds
    exact rounds.isNumber_natCast (by omega)
  have quotient : IsNumber (round (x * 100) / 100) n := by
    have rounds := product.round_floor.div isNumber_hundred (by norm_num)
    rw [floor_natCast_add_half, ← cast, mul_div_cancel_right₀ _ (by norm_num)] at rounds
    exact rounds.isNumber_natCast (by omega)
  obtain ⟨significand, exponent, parts, _, whole⟩ := quotient.exists_ofFloat_eq
  rw [showCoordinate, parts]
  by_cases zero : significand = 0
  · have nothing : n = 0 := by
      rw [zero, Nat.cast_zero, zero_mul] at whole
      exact_mod_cast whole
    rw [nothing, zero]
    rfl
  · simp [zero, hundredths_of_whole whole, showHundredths_of_whole]

theorem IsNumber.showCoordinate_of_large (number : IsNumber x value)
    (large : overflowLimit ≤ 100 * value) : showCoordinate x = "inf" := by
  have product := (number.mul isNumber_hundred).infinite (by rwa [mul_comm])
  have quotient : IsInfinite (round (x * 100) / 100) := by
    rw [product.round_eq]
    exact product.div isNumber_hundred
  rw [showCoordinate, quotient.ofFloat_eq]
  rfl

end Text

end EnergyReport.Number
