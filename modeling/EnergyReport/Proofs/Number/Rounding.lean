import Mathlib

namespace EnergyReport.Number

/-! Rounding to the numbers of 64 bits, on exact numbers.

A positive number is rounded to a multiple of the power of two that leaves it 53 binary places, or
of the least power that there is. -/

/-- The nearest whole number, a half going to the even neighbour. -/
def nearestEven (x : ℚ) : ℕ :=
  if x < ⌊x⌋₊ + 1 / 2 then ⌊x⌋₊
  else if ⌊x⌋₊ + 1 / 2 < x then ⌊x⌋₊ + 1
  else ⌊x⌋₊ + ⌊x⌋₊ % 2

/-- The exponent of the last place that is kept. -/
def lastPlace (x : ℚ) : ℤ :=
  max (Int.log 2 x - 52) (-1074)

/-- The number with no more than 53 places that is nearest. -/
def rounded (x : ℚ) : ℚ :=
  nearestEven (x / 2 ^ lastPlace x) * 2 ^ lastPlace x

/-- Half a place behind the greatest number of 64 bits; what is not below it becomes infinite. -/
def overflowLimit : ℚ :=
  (2 ^ 54 - 1) * 2 ^ (970 : ℤ)

section Nearest

variable {x y : ℚ} {n : ℕ}

theorem floor_le_nearestEven (x : ℚ) : ⌊x⌋₊ ≤ nearestEven x := by
  unfold nearestEven
  split_ifs <;> omega

theorem nearestEven_le_floor_add_one (x : ℚ) : nearestEven x ≤ ⌊x⌋₊ + 1 := by
  unfold nearestEven
  split_ifs <;> omega

theorem nearestEven_of_below (least : n ≤ x) (below : x < n + 1 / 2) : nearestEven x = n := by
  have floor : ⌊x⌋₊ = n := (Nat.floor_eq_iff ((Nat.cast_nonneg n).trans least)).mpr
    ⟨least, by linarith⟩
  rw [nearestEven, floor, if_pos below]

theorem nearestEven_of_half (half : x = n + 1 / 2) : nearestEven x = n + n % 2 := by
  have floor : ⌊x⌋₊ = n := (Nat.floor_eq_iff (by rw [half]; positivity)).mpr
    ⟨by linarith, by linarith⟩
  rw [nearestEven, floor, if_neg (by linarith), if_neg (by linarith)]

theorem nearestEven_of_above (above : n + 1 / 2 < x) (most : x < n + 1) :
    nearestEven x = n + 1 := by
  have positive : (0 : ℚ) ≤ n := Nat.cast_nonneg n
  have floor : ⌊x⌋₊ = n := (Nat.floor_eq_iff (by linarith)).mpr ⟨by linarith, most⟩
  rw [nearestEven, floor, if_neg (by linarith), if_pos above]

theorem nearestEven_natCast (n : ℕ) : nearestEven n = n :=
  nearestEven_of_below le_rfl (by linarith)

theorem nearestEven_mono (least : x ≤ y) : nearestEven x ≤ nearestEven y := by
  have floors : ⌊x⌋₊ ≤ ⌊y⌋₊ := Nat.floor_mono least
  rcases floors.eq_or_lt with same | less
  · unfold nearestEven
    rw [same]
    split_ifs <;> first | omega | linarith
  · calc nearestEven x ≤ ⌊x⌋₊ + 1 := nearestEven_le_floor_add_one x
      _ ≤ ⌊y⌋₊ := less
      _ ≤ nearestEven y := floor_le_nearestEven y

theorem natCast_le_nearestEven (least : n ≤ x) : n ≤ nearestEven x := by
  have rounds := nearestEven_mono least
  rwa [nearestEven_natCast] at rounds

theorem nearestEven_le_natCast (most : x ≤ n) : nearestEven x ≤ n := by
  have rounds := nearestEven_mono most
  rwa [nearestEven_natCast] at rounds

theorem nearestEven_le_of_below (below : x < n + 1 / 2) : nearestEven x ≤ n := by
  rcases lt_or_ge x n with less | least
  · exact nearestEven_le_natCast less.le
  · exact (nearestEven_of_below least below).le

theorem nearestEven_pos_iff : 0 < nearestEven x ↔ 1 / 2 < x := by
  constructor
  · intro some
    by_contra most
    have half : nearestEven (1 / 2) = 0 := nearestEven_of_half (n := 0) (by norm_num)
    have rounds := nearestEven_mono (not_lt.mp most)
    omega
  · intro above
    rcases lt_or_ge x 1 with less | one
    · rw [nearestEven_of_above (n := 0) (by simpa using above) (by simpa using less)]
      omega
    · exact natCast_le_nearestEven (n := 1) (by simpa using one)

end Nearest

section LastPlace

variable {x y : ℚ}

theorem least_le_lastPlace (x : ℚ) : -1074 ≤ lastPlace x := le_max_right _ _

theorem lastPlace_mono (positive : 0 < x) (least : x ≤ y) : lastPlace x ≤ lastPlace y :=
  max_le_max_right _ (by linarith [Int.log_mono_right (b := 2) positive least])

theorem lt_of_lastPlace (x : ℚ) : x < 2 ^ (lastPlace x + 53) := by
  have log : x < 2 ^ (Int.log 2 x + 1) := Int.lt_zpow_succ_log_self (by norm_num) x
  have place : Int.log 2 x - 52 ≤ lastPlace x := le_max_left _ _
  exact log.trans_le (zpow_le_zpow_right₀ (by norm_num) (by omega))

theorem le_of_lastPlace (positive : 0 < x) (normal : lastPlace x ≠ -1074) :
    2 ^ (lastPlace x + 52) ≤ x := by
  have log : (2 : ℚ) ^ Int.log 2 x ≤ x := Int.zpow_log_le_self (by norm_num) positive
  have place : lastPlace x = Int.log 2 x - 52 := by
    unfold lastPlace at normal ⊢
    omega
  rwa [place, sub_add_cancel]

/-- The powers of two around a number determine its last place. -/
theorem lastPlace_eq {place : ℤ} (positive : 0 < x) (least : -1074 ≤ place)
    (below : x < 2 ^ (place + 53)) (normal : 2 ^ (place + 52) ≤ x ∨ place = -1074) :
    lastPlace x = place := by
  have log : Int.log 2 x < place + 53 := (Int.lt_zpow_iff_log_lt (by norm_num) positive).mp below
  rcases normal with normal | rfl
  · have log' : place + 52 ≤ Int.log 2 x :=
      (Int.zpow_le_iff_le_log (by norm_num) positive).mp normal
    unfold lastPlace
    omega
  · unfold lastPlace
    omega

theorem scaled_lt (x : ℚ) : x / 2 ^ lastPlace x < (2 ^ 53 : ℕ) := by
  rw [div_lt_iff₀ (by positivity)]
  have below := lt_of_lastPlace x
  rw [add_comm, zpow_add₀ (by norm_num)] at below
  exact_mod_cast below

theorem le_scaled (positive : 0 < x) (normal : lastPlace x ≠ -1074) :
    (2 ^ 52 : ℕ) ≤ x / 2 ^ lastPlace x := by
  rw [le_div_iff₀ (by positivity)]
  have above := le_of_lastPlace positive normal
  rw [add_comm, zpow_add₀ (by norm_num)] at above
  exact_mod_cast above

end LastPlace

section Rounded

variable {x y : ℚ}

theorem rounded_zero : rounded 0 = 0 := by
  have nothing : nearestEven 0 = 0 := nearestEven_natCast 0
  rw [rounded, zero_div, nothing, Nat.cast_zero, zero_mul]

theorem nearestEven_scaled_le (x : ℚ) :
    nearestEven (x / 2 ^ lastPlace x) ≤ 2 ^ 53 :=
  nearestEven_le_natCast (scaled_lt x).le

theorem le_nearestEven_scaled (positive : 0 < x) (normal : lastPlace x ≠ -1074) :
    2 ^ 52 ≤ nearestEven (x / 2 ^ lastPlace x) :=
  natCast_le_nearestEven (le_scaled positive normal)

theorem rounded_mono (positive : 0 < x) (least : x ≤ y) : rounded x ≤ rounded y := by
  have places := lastPlace_mono positive least
  rcases places.eq_or_lt with same | less
  · unfold rounded
    rw [same]
    gcongr
    exact nearestEven_mono (by gcongr)
  · have most : (nearestEven (x / 2 ^ lastPlace x) : ℚ) ≤ 2 ^ 53 := by
      exact_mod_cast nearestEven_scaled_le x
    have enough : (2 : ℚ) ^ 52 ≤ nearestEven (y / 2 ^ lastPlace y) := by
      have normal : lastPlace y ≠ -1074 := by
        have := least_le_lastPlace x
        omega
      exact_mod_cast le_nearestEven_scaled (positive.trans_le least) normal
    calc rounded x ≤ 2 ^ 53 * 2 ^ lastPlace x := by unfold rounded; gcongr
      _ = 2 ^ 52 * 2 ^ (lastPlace x + 1) := by rw [zpow_add₀ (by norm_num)]; ring
      _ ≤ 2 ^ 52 * 2 ^ lastPlace y := by gcongr; norm_num; omega
      _ ≤ rounded y := by unfold rounded; gcongr

/-- What is above half of the least number does not vanish. -/
theorem rounded_pos_iff (nonneg : 0 ≤ x) : 0 < rounded x ↔ 2 ^ (-1075 : ℤ) < x := by
  rcases nonneg.eq_or_lt with rfl | positive
  · have half : (0 : ℚ) < 2 ^ (-1075 : ℤ) := by positivity
    rw [rounded_zero]
    exact ⟨fun absurd => absurd.false.elim, fun less => half.trans less⟩
  have power : (0 : ℚ) < 2 ^ lastPlace x := by positivity
  have half : (1 / 2 : ℚ) * 2 ^ lastPlace x = 2 ^ (lastPlace x - 1) := by
    rw [zpow_sub_one₀ (by norm_num)]
    ring
  rw [rounded, mul_pos_iff_of_pos_right power, Nat.cast_pos, nearestEven_pos_iff,
    lt_div_iff₀ power, half]
  by_cases normal : lastPlace x = -1074
  · rw [normal]
    norm_num
  · have place := least_le_lastPlace x
    have above := le_of_lastPlace positive normal
    have half' : (2 : ℚ) ^ (lastPlace x - 1) < x :=
      (zpow_lt_zpow_right₀ (by norm_num) (by omega)).trans_le above
    have least : (2 : ℚ) ^ (-1075 : ℤ) < x :=
      (zpow_lt_zpow_right₀ (by norm_num) (by omega)).trans_le above
    exact ⟨fun _ => least, fun _ => half'⟩

theorem overflowLimit_pos : 0 < overflowLimit :=
  mul_pos (by norm_num) (zpow_pos two_pos 970)

theorem large_overflowLimit : 2 ^ 100 ≤ overflowLimit := by
  calc (2 : ℚ) ^ 100 = 2 ^ (100 : ℤ) := (zpow_natCast 2 100).symm
    _ ≤ 2 ^ (970 : ℤ) := zpow_le_zpow_right₀ (by norm_num) (by norm_num)
    _ ≤ overflowLimit := le_mul_of_one_le_left (zpow_nonneg zero_le_two _) (by norm_num)

theorem overflowLimit_eq : overflowLimit = ((2 ^ 53 - 1 : ℕ) + 1 / 2) * 2 ^ (971 : ℤ) := by
  rw [overflowLimit, show (971 : ℤ) = 970 + 1 from rfl, zpow_add_one₀ (by norm_num)]
  generalize (2 : ℚ) ^ (970 : ℤ) = power
  push_cast
  ring

theorem lastPlace_overflowLimit : lastPlace overflowLimit = 971 := by
  have power (place : ℤ) : (0 : ℚ) < 2 ^ place := by positivity
  refine lastPlace_eq overflowLimit_pos (by norm_num) ?_ (.inl ?_)
  · rw [show (971 + 53 : ℤ) = 54 + 970 from rfl, zpow_add₀ (by norm_num), overflowLimit,
      mul_lt_mul_iff_left₀ (power 970)]
    norm_num
  · rw [show (971 + 52 : ℤ) = 53 + 970 from rfl, zpow_add₀ (by norm_num), overflowLimit,
      mul_le_mul_iff_left₀ (power 970)]
    norm_num

theorem rounded_overflowLimit : rounded overflowLimit = 2 ^ (1024 : ℤ) := by
  have half : overflowLimit / 2 ^ (971 : ℤ) = (2 ^ 53 - 1 : ℕ) + 1 / 2 := by
    rw [overflowLimit_eq, mul_div_cancel_right₀ _ (by positivity)]
  rw [rounded, lastPlace_overflowLimit, nearestEven_of_half half,
    show (1024 : ℤ) = 53 + 971 from rfl, zpow_add₀ (by norm_num)]
  norm_num

/-- What is below the limit stays finite. -/
theorem rounded_lt_iff (nonneg : 0 ≤ x) :
    rounded x < 2 ^ (1024 : ℤ) ↔ x < overflowLimit := by
  have power (place : ℤ) : (0 : ℚ) < 2 ^ place := by positivity
  rcases nonneg.eq_or_lt with rfl | positive
  · rw [rounded_zero]
    exact iff_of_true (power 1024) overflowLimit_pos
  constructor
  · intro less
    by_contra large
    have most := rounded_mono overflowLimit_pos (not_lt.mp large)
    rw [rounded_overflowLimit] at most
    exact absurd less (not_lt.mpr most)
  · intro below
    have place : lastPlace x ≤ 971 :=
      lastPlace_overflowLimit ▸ lastPlace_mono positive below.le
    rw [rounded, show (1024 : ℤ) = 53 + 971 from rfl, zpow_add₀ (by norm_num)]
    rcases place.eq_or_lt with same | less
    · rw [overflowLimit_eq, ← div_lt_iff₀ (power 971)] at below
      have most : (nearestEven (x / 2 ^ (971 : ℤ)) : ℚ) ≤ (2 ^ 53 - 1 : ℕ) := by
        exact_mod_cast nearestEven_le_of_below below
      rw [same, mul_lt_mul_iff_left₀ (power 971)]
      exact most.trans_lt (by norm_num)
    · have most : (nearestEven (x / 2 ^ lastPlace x) : ℚ) ≤ 2 ^ (53 : ℤ) := by
        exact_mod_cast nearestEven_scaled_le x
      exact (mul_le_mul_of_nonneg_right most (power _).le).trans_lt
        (mul_lt_mul_of_pos_left (zpow_lt_zpow_right₀ (by norm_num) less) (power 53))

end Rounded

end EnergyReport.Number
