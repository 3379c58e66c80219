import EnergyReport.Color.Theme

namespace EnergyReport

/-! Colors that are read from a text are written as the text in small letters. -/

namespace Text

theorem toNat_lt_of_hexDigit {c : Char} {value : Nat} (read : hexDigit? c = some value) :
    c.toNat < 103 := by
  have last : '9'.val.toNat = 57 ∧ 'f'.val.toNat = 102 ∧ 'F'.val.toNat = 70 := by decide
  simp only [hexDigit?, Char.isDigit, Bool.and_eq_true, decide_eq_true_eq, Char.le_def,
    UInt32.le_iff_toNat_le, ge_iff_le] at read
  simp only [Char.toNat]
  split at read
  · rename_i digit
    exact Nat.lt_of_le_of_lt digit.2 (by decide)
  split at read
  · omega
  split at read
  · omega
  · contradiction

/-- The value of a hexadecimal digit is written as the digit in its small form. -/
theorem digitChar_of_hexDigit {c : Char} {value : Nat} (read : hexDigit? c = some value) :
    value < 16 ∧ Nat.digitChar value = c.toLower := by
  have checked : ∀ code < 103, ∀ value ∈ hexDigit? (Char.ofNat code),
      value < 16 ∧ Nat.digitChar value = (Char.ofNat code).toLower := by
    decide +kernel
  have known := checked c.toNat (toNat_lt_of_hexDigit read) value
  rw [Char.ofNat_toNat] at known
  exact known read

end Text

namespace Rgb

theorem channelHex_of_channel {high low : Char} {channel : UInt8}
    (read : channel? high low = some channel) :
    channelHex channel = [high.toLower, low.toLower] := by
  simp only [channel?, Option.bind_eq_bind, Option.bind_eq_some_iff] at read
  obtain ⟨first, readFirst, second, readSecond, made⟩ := read
  obtain ⟨firstBound, firstDigit⟩ := Text.digitChar_of_hexDigit readFirst
  obtain ⟨secondBound, secondDigit⟩ := Text.digitChar_of_hexDigit readSecond
  cases made
  have value : (UInt8.ofNat (16 * first + second)).toNat = 16 * first + second :=
    UInt8.toNat_ofNat_of_lt' (by simp only [UInt8.size]; omega)
  have high : (16 * first + second) / 16 = first := by omega
  have low : (16 * first + second) % 16 = second := by omega
  rw [channelHex, value, high, low, firstDigit, secondDigit]

theorem toHex_of_parse {text : Text} {color : Rgb} (read : parse text = .ok color) :
    color.toHex = text.map Char.toLower := by
  unfold parse at read
  split at read
  · rename_i found
    cases read
    unfold ofHex? at found
    split at found
    · simp only [Option.bind_eq_bind, Option.bind_eq_some_iff] at found
      obtain ⟨red, readRed, green, readGreen, blue, readBlue, made⟩ := found
      cases made
      simp only [toHex, channelHex_of_channel readRed, channelHex_of_channel readGreen,
        channelHex_of_channel readBlue]
      rfl
    · contradiction
  · contradiction

end Rgb
end EnergyReport
