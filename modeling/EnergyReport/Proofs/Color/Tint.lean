import EnergyReport.Color.Rgb
import EnergyReport.Proofs.Number.Ordered

namespace EnergyReport.Rgb

open Number

/-! Tints: colors that are moved toward white by a fraction of the way.

The arithmetic on floating-point numbers is monotone up to the infinite ones, and so is a channel of
the tint. The one exception is a channel that is full already: nothing is left of its way, and
nothing times an infinite fraction is not a number. -/

/-- The level of a channel that stands at a number. -/
def level (x : ℚ) : ℕ := min ⌊x + 1 / 2⌋₊ 255

/-- Where a channel stands after a fraction of its way to the greatest level. -/
def tint (channel : ℕ) (fraction : ℚ) : ℚ :=
  nearest (channel + nearest ((255 - channel) * fraction))

def channels : List (Rgb → UInt8) := [red, green, blue]

section Level

variable {x y : ℚ}

theorem level_mono (least : x ≤ y) : level x ≤ level y := by
  unfold level
  gcongr

theorem level_of_full (full : 255 ≤ x) : level x = 255 := by
  refine min_eq_right (Nat.le_floor ?_)
  push_cast
  linarith

theorem level_of_nonpos (nonpos : x ≤ 0) : level x = 0 := by
  have nothing : ⌊x + 1 / 2⌋₊ = 0 := Nat.floor_eq_zero.mpr (by linarith)
  rw [level, nothing]
  rfl

theorem tint_mono {channel : ℕ} (most : channel ≤ 255) (least : x ≤ y) :
    tint channel x ≤ tint channel y := by
  have way : (0 : ℚ) ≤ 255 - channel := by
    rw [sub_nonneg]
    exact_mod_cast most
  unfold tint
  have step := nearest_mono (mul_le_mul_of_nonneg_left least way)
  exact nearest_mono (by linarith)

theorem rest_eq_natCast {channel : ℕ} (most : channel ≤ 255) :
    (255 : ℚ) - channel = (255 - channel : ℕ) :=
  (Nat.cast_sub most).symm

/-- The whole way leads to the greatest level. -/
theorem tint_one {channel : ℕ} (most : channel ≤ 255) : tint channel 1 = 255 := by
  have whole : (channel : ℚ) + (255 - channel : ℕ) = (255 : ℕ) := by
    rw [← Nat.cast_add, Nat.add_sub_cancel' most]
  rw [tint, mul_one, rest_eq_natCast most, nearest_natCast (by omega), whole,
    nearest_natCast (by norm_num)]
  rfl

end Level

section Channel

variable {f g : Float}

/-- What the moved channel is rounded to; what is not a number counts as zero. -/
theorem toNat_lightenChannel (channel : UInt8) (fraction : Float) :
    (lightenChannel channel fraction).toNat =
      (rank (Float.ofNat channel.toNat + (255 - Float.ofNat channel.toNat) * fraction)).elim 0
        level := by
  simp only [lightenChannel]
  generalize Float.ofNat channel.toNat + (255 - Float.ofNat channel.toNat) * fraction = sum
  have above := overflowLimit_add_le
  have limit := overflowLimit_pos
  rw [Binary64.ofFloat_eq, rank]
  cases sum.toModel.unpack with
  | notANumber => rfl
  | infinity sign =>
      cases sign with
      | negative =>
          rw [rank?_bottom, Option.elim_some, level_of_nonpos (by linarith)]
          rfl
      | positive =>
          rw [rank?_top, Option.elim_some, level_of_full (by linarith)]
          rfl
  | zero sign =>
      rw [rank?, Option.elim_some, level_of_nonpos le_rfl]
      cases sign <;> rfl
  | finite sign significand exponent positive =>
      rw [rank?, Option.elim_some]
      cases sign with
      | negative =>
          have below : -((significand : ℚ) * 2 ^ exponent) ≤ 0 := by
            rw [neg_nonpos]
            positivity
          rw [signed, level_of_nonpos below]
          rfl
      | positive =>
          change (UInt8.ofNat (min (roundMagnitude significand exponent) 255)).toNat = _
          rw [UInt8.toNat_ofNat_of_lt' (lt_of_le_of_lt (min_le_right _ _) (by decide)),
            roundMagnitude_eq_floor]
          rfl

theorem isNumber_rest (channel : ℕ) (most : channel ≤ 255) :
    IsNumber (255 - Float.ofNat channel) (255 - channel) := by
  have difference := IsNumber.sub (isNumber_ofNat (n := 255) (by norm_num))
    (isNumber_ofNat (by omega : channel < 2 ^ 53)) (by exact_mod_cast most)
  rw [Nat.cast_ofNat, rest_eq_natCast most] at difference
  rw [rest_eq_natCast most]
  exact difference.isNumber_natCast (by omega)

/-- A channel that is not full yet moves by the fraction of its way, infinities included. -/
theorem rank_moved {channel : ℕ} (less : channel < 255) (fraction : Float) :
    rank (Float.ofNat channel + (255 - Float.ofNat channel) * fraction) =
      (rank fraction).map (tint channel) := by
  have left : (1 : ℚ) ≤ 255 - channel := by
    have : (channel : ℚ) + 1 ≤ 255 := by exact_mod_cast less
    linarith
  have small : (channel : ℚ) ≤ 2 ^ 100 := by
    exact_mod_cast (less.trans (by norm_num : 255 < 2 ^ 100)).le
  rw [(isNumber_ofNat (by omega)).rank_add small, (isNumber_rest channel less.le).rank_mul left,
    Option.map_map]
  rfl

theorem rank_full (fraction : Float) :
    rank (Float.ofNat 255 + (255 - Float.ofNat 255) * fraction) =
      if fraction.isFinite then some 255 else none := by
  -- nothing is left of the way, and nothing times infinity is not a number
  have nothing := isNumber_rest 255 le_rfl
  rw [Nat.cast_ofNat, sub_self] at nothing
  rw [(isNumber_ofNat (n := 255) (by norm_num)).rank_add (by norm_num), nothing.rank_zero_mul]
  split_ifs with finite
  · rw [Option.map_some, add_zero, nearest_natCast (by norm_num)]
    rfl
  · rfl

theorem lightenChannel_full (f : Float) :
    lightenChannel 255 f = if f.isFinite then 255 else 0 := by
  have written := toNat_lightenChannel 255 f
  change _ = (rank (Float.ofNat 255 + (255 - Float.ofNat 255) * f)).elim 0 level at written
  rw [rank_full] at written
  rw [← UInt8.toNat_inj, written]
  split_ifs with finite
  · exact level_of_full le_rfl
  · rfl

theorem toNat_le_full (channel : UInt8) : channel.toNat ≤ 255 :=
  Nat.le_of_lt_succ channel.toNat_lt

theorem lt_full {channel : UInt8} (notFull : channel ≠ 255) : channel < 255 :=
  UInt8.lt_iff_toNat_lt.mpr
    ((toNat_le_full channel).lt_of_ne fun same => notFull (UInt8.toNat_inj.mp same))

theorem toNat_lightenChannel_of_lt {channel : UInt8} (less : channel < 255) (f : Float) :
    (lightenChannel channel f).toNat =
      (rank f).elim 0 fun fraction => level (tint channel.toNat fraction) := by
  rw [toNat_lightenChannel, rank_moved (UInt8.lt_iff_toNat_lt.mp less), Option.elim_map]
  rfl

/-- A greater fraction brings a channel at least as far, unless it loses a full channel. -/
theorem lightenChannel_le_iff (channel : UInt8) (ordered : f ≤ g) :
    lightenChannel channel f ≤ lightenChannel channel g ↔
      ¬ (channel = 255 ∧ f.isFinite ∧ g.isInf) := by
  obtain ⟨x, y, stands, stands', least⟩ := rank_le_of_le ordered
  by_cases full : channel = 255
  · rw [full, lightenChannel_full, lightenChannel_full, isInf_iff_of_rank stands']
    split_ifs with finite finite' finite' <;> simp [finite, finite']
  · have less := lt_full full
    refine iff_of_true ?_ fun lost => full lost.1
    rw [UInt8.le_iff_toNat_le, toNat_lightenChannel_of_lt less, toNat_lightenChannel_of_lt less,
      stands, stands']
    exact level_mono (tint_mono (toNat_le_full channel) least)

theorem rank_one : rank 1 = some 1 := by
  have whole : IsNumber (Float.ofNat 1) (1 : ℕ) := isNumber_ofNat (by norm_num)
  rw [Nat.cast_one] at whole
  exact whole.rank_eq

theorem lightenChannel_of_one_le (channel : UInt8) (all : 1 ≤ f) :
    lightenChannel channel f = if channel = 255 ∧ f.isInf then 0 else 255 := by
  obtain ⟨one, x, stands, stands', least⟩ := rank_le_of_le all
  obtain rfl := Option.some.inj (rank_one.symm.trans stands)
  by_cases full : channel = 255
  · rw [full, lightenChannel_full]
    by_cases finite : f.isFinite
    · rw [if_pos finite, if_neg fun lost => (isInf_iff_of_rank stands').mp lost.2 finite]
    · rw [if_neg finite, if_pos ⟨rfl, (isInf_iff_of_rank stands').mpr finite⟩]
  · have less := lt_full full
    rw [if_neg fun lost => full lost.1, ← UInt8.toNat_inj, toNat_lightenChannel_of_lt less,
      stands']
    refine level_of_full ?_
    rw [← tint_one (toNat_le_full channel)]
    exact tint_mono (toNat_le_full channel) least

end Channel

theorem lighten_channel {channel : Rgb → UInt8} (known : channel ∈ channels) (color : Rgb)
    (fraction : Float) :
    channel (color.lighten fraction) = lightenChannel (channel color) fraction := by
  simp only [channels, List.mem_cons, List.not_mem_nil, or_false] at known
  rcases known with rfl | rfl | rfl <;> rfl

/-- A greater fraction gives a tint that is nowhere darker, and from one on it gives white. The
only exceptions are full channels, which an infinite fraction turns to zero. -/
theorem lighten_mono_unless_full (color : Rgb) :
    ∀ channel ∈ channels,
      (∀ f g : Float, f ≤ g →
        (channel (color.lighten f) ≤ channel (color.lighten g) ↔
          ¬ (channel color = 255 ∧ f.isFinite ∧ g.isInf))) ∧
      ∀ f : Float, 1 ≤ f →
        channel (color.lighten f) = if channel color = 255 ∧ f.isInf then 0 else 255 := by
  intro channel known
  refine ⟨fun f g ordered => ?_, fun f all => ?_⟩
  · rw [lighten_channel known, lighten_channel known]
    exact lightenChannel_le_iff (channel color) ordered
  · rw [lighten_channel known]
    exact lightenChannel_of_one_le (channel color) all

theorem lighten_mono_unless_full_lime :
    let infinite := Float.ofBits 0x7FF0000000000000
    ((0.25 : Float) ≤ 0.5 ∧
      (lighten ⟨128, 255, 0⟩ 0.25).green ≤ (lighten ⟨128, 255, 0⟩ 0.5).green) ∧
      (1 ≤ infinite ∧
        ¬ (lighten ⟨128, 255, 0⟩ 1).green ≤ (lighten ⟨128, 255, 0⟩ infinite).green) ∧
      (lighten ⟨128, 255, 0⟩ infinite).blue = 255 := by
  intro infinite
  have less : (0.25 : Float) ≤ 0.5 := by decide +kernel
  have whole : (1 : Float) ≤ infinite := by decide +kernel
  have ends : (0.5 : Float).isInf = false ∧ (1 : Float).isFinite ∧ infinite.isInf := by
    decide +kernel
  have green_le := (lighten_mono_unless_full ⟨128, 255, 0⟩ green (by simp [channels])).1
  have blue_eq := (lighten_mono_unless_full ⟨128, 255, 0⟩ blue (by simp [channels])).2
  refine ⟨⟨less, (green_le 0.25 0.5 less).mpr ?_⟩, ⟨whole, fun least => ?_⟩, ?_⟩
  · exact fun lost => Bool.false_ne_true (ends.1.symm.trans lost.2.2)
  · exact (green_le 1 infinite whole).mp least ⟨rfl, ends.2⟩
  · rw [blue_eq infinite whole]
    rfl

example : lighten ⟨255, 255, 255⟩ (Float.ofBits 0x7FF0000000000000) = ⟨0, 0, 0⟩ := by
  decide +kernel

end EnergyReport.Rgb
