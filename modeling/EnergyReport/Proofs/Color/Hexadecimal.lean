import EnergyReport.Proofs.Color.Rgb
import EnergyReport.Proofs.Text.Basic

namespace EnergyReport

/-! The texts that write a color, and the color that is read back.

A color can also be read from the bytes of its text: its length is then counted in bytes, and each
channel is cut out between two places among them. Both readings agree on every text. -/

namespace Text

/-! ### Texts as bytes -/

/-- The UTF-8 form of a text. -/
def bytes (text : Text) : List UInt8 :=
  text.flatMap String.utf8EncodeChar

/-- Cuts a text at a place that is counted in bytes. Inside a character and beyond the end
there is no such place. -/
def cutAtByte? : Nat → Text → Option (Text × Text)
  | 0, text => some ([], text)
  | _ + 1, [] => none
  | place + 1, c :: rest =>
      if c.utf8Size ≤ place + 1 then
        (cutAtByte? (place + 1 - c.utf8Size) rest).map fun (before, after) => (c :: before, after)
      else none

/-- The part of a text between two places that are counted in bytes. -/
def slice? (start stop : Nat) (text : Text) : Option Text :=
  (cutAtByte? stop text).bind fun parts => (cutAtByte? start parts.1).map Prod.snd

/-- Whether the byte is an ASCII digit or an ASCII letter up to F, in either case. -/
def isHexByte (byte : UInt8) : Bool :=
  let n := byte.toNat
  (0x30 ≤ n && n ≤ 0x39) || (0x41 ≤ n && n ≤ 0x46) || (0x61 ≤ n && n ≤ 0x66)

/-- The number of eight bits that hexadecimal digits write; a plus sign may stand before them. -/
def byte? (digits : Text) : Option UInt8 :=
  let unsigned := (strip? ['+'] digits).getD digits
  if unsigned.isEmpty then none
  else
    (hexadecimal? unsigned).bind fun value =>
      if value < UInt8.size then some (UInt8.ofNat value) else none

def IsHexDigit (c : Char) : Prop :=
  ('0' ≤ c ∧ c ≤ '9') ∨ ('a' ≤ c ∧ c ≤ 'f') ∨ ('A' ≤ c ∧ c ≤ 'F')

end Text

namespace Rgb

/-- The channel that two bytes of a text write from a place on. A slice that is not to be had
breaks the reading off; a part that writes no channel makes the complaint. -/
def channelAt (text digits : Text) (start : Nat) : ExceptT InvalidColor Option UInt8 := do
  let part ← (Text.slice? start (start + 2) digits : Option Text)
  match Text.byte? part with
  | some channel => return channel
  | none => throw ⟨text⟩

/-- Reads a color from the bytes of a text; without a result a slice was broken off. -/
def readBytes (text : Text) : ExceptT InvalidColor Option Rgb :=
  match Text.strip? ['#'] text with
  | none => throw ⟨text⟩
  | some digits =>
      if (Text.bytes digits).length ≠ 6 || !(Text.bytes digits).all Text.isHexByte then
        throw ⟨text⟩
      else do
        return ⟨← channelAt text digits 0, ← channelAt text digits 2, ← channelAt text digits 4⟩

end Rgb

namespace Text

/-! ### Hexadecimal digits -/

variable {c : Char}

theorem isSome_hexDigit?_iff : (hexDigit? c).isSome ↔ IsHexDigit c := by
  unfold hexDigit? IsHexDigit
  have digit : c.isDigit = true ↔ '0' ≤ c ∧ c ≤ '9' := by
    simp [Char.isDigit, Char.le_def, ge_iff_le]
  split
  · rename_i isDigit
    simp [digit.mp isDigit]
  · rename_i noDigit
    rw [digit] at noDigit
    split
    · rename_i small
      simp_all
    · split <;> simp_all

/-- The bytes of a character are hexadecimal digits exactly where the character is one; it then
is a single byte. -/
theorem all_isHexByte_utf8EncodeChar (c : Char) :
    (String.utf8EncodeChar c).all isHexByte = (hexDigit? c).isSome := by
  by_cases ascii : c.toNat < 128
  · have checked : ∀ code < 128, (String.utf8EncodeChar (Char.ofNat code)).all isHexByte =
        (hexDigit? (Char.ofNat code)).isSome := by
      decide +kernel
    have known := checked c.toNat ascii
    rwa [Char.ofNat_toNat] at known
  · have none : hexDigit? c = none := by
      cases read : hexDigit? c with
      | none => rfl
      | some value =>
          have small := toNat_lt_of_hexDigit read
          omega
    have code : ¬ c.val.toNat ≤ 127 := by
      simp only [Char.toNat] at ascii
      omega
    have lead (n : Nat) (low : 0xC0 ≤ n) (high : n < 0x100) :
        isHexByte (UInt8.ofNat n) = false := by
      have value : (UInt8.ofNat n).toNat = n := UInt8.toNat_ofNat_of_lt' high
      simp only [isHexByte, value, Bool.or_eq_false_iff, Bool.and_eq_false_iff,
        decide_eq_false_iff_not]
      omega
    unfold String.utf8EncodeChar
    simp only [if_neg code, none, Option.isSome_none]
    split
    · rw [List.all_cons, lead _ (by omega) (by omega), Bool.false_and]
    · split <;> rw [List.all_cons, lead _ (by omega) (by omega), Bool.false_and]

theorem utf8Size_of_isHexDigit (digit : IsHexDigit c) : c.utf8Size = 1 := by
  obtain ⟨value, read⟩ := Option.isSome_iff_exists.mp (isSome_hexDigit?_iff.mpr digit)
  have small := toNat_lt_of_hexDigit read
  rw [Char.utf8Size_eq_one_iff, UInt32.le_iff_toNat_le]
  simp only [Char.toNat] at small
  change c.val.toNat ≤ 127
  omega

theorem all_isHexByte_bytes {text : Text} :
    (bytes text).all isHexByte ↔ ∀ c ∈ text, IsHexDigit c := by
  simp only [bytes, List.all_flatMap, List.all_eq_true, all_isHexByte_utf8EncodeChar,
    isSome_hexDigit?_iff]

theorem length_bytes {text : Text} (digits : ∀ c ∈ text, IsHexDigit c) :
    (bytes text).length = text.length := by
  rw [bytes, List.length_flatMap]
  induction text with
  | nil => rfl
  | cons c rest ih =>
      obtain ⟨digit, others⟩ := List.forall_mem_cons.mp digits
      rw [List.map_cons, List.sum_cons, ih others, String.length_utf8EncodeChar,
        utf8Size_of_isHexDigit digit, List.length_cons, Nat.add_comm]

/-- Where each character is a single byte, every place lies between two of them. -/
theorem cutAtByte?_append {before after : Text} (digits : ∀ c ∈ before, IsHexDigit c) :
    cutAtByte? before.length (before ++ after) = some (before, after) := by
  induction before with
  | nil => cases after <;> rfl
  | cons c before ih =>
      obtain ⟨digit, others⟩ := List.forall_mem_cons.mp digits
      have size := utf8Size_of_isHexDigit digit
      have further : before.length + 1 - c.utf8Size = before.length := by omega
      rw [List.cons_append, List.length_cons, cutAtByte?, if_pos (by omega), further, ih others]
      rfl

theorem slice?_append (before part after : Text) (first : ∀ c ∈ before, IsHexDigit c)
    (second : ∀ c ∈ part, IsHexDigit c) :
    slice? before.length (before.length + part.length) (before ++ part ++ after) =
      some part := by
  have whole := List.forall_mem_append.mpr ⟨first, second⟩
  rw [slice?, ← List.length_append, cutAtByte?_append whole, Option.bind_some,
    cutAtByte?_append first]
  rfl

theorem hexDigit?_lt {value : Nat} (read : hexDigit? c = some value) : value < 16 :=
  (digitChar_of_hexDigit read).1

theorem hexDigit?_digitChar : ∀ value < 16, hexDigit? (Nat.digitChar value) = some value := by
  decide

theorem byte?_pair {high low : Char} (first : IsHexDigit high) (second : IsHexDigit low) :
    byte? [high, low] = Rgb.channel? high low := by
  obtain ⟨one, readHigh⟩ := Option.isSome_iff_exists.mp (isSome_hexDigit?_iff.mpr first)
  obtain ⟨other, readLow⟩ := Option.isSome_iff_exists.mp (isSome_hexDigit?_iff.mpr second)
  have small := hexDigit?_lt readHigh
  have small' := hexDigit?_lt readLow
  have unsigned : high ≠ '+' := by
    rintro rfl
    contradiction
  have fits : one * 16 + other < UInt8.size := by
    simp only [UInt8.size]
    omega
  rw [Nat.mul_comm] at fits
  simp [byte?, strip?, unsigned, hexadecimal?, readHigh, readLow, Rgb.channel?,
    Nat.mul_comm one, fits]

end Text

namespace Rgb

/-! ### Colors and their texts -/

variable {text : Text}

/-- The text of a color: a number sign and six hexadecimal digits. -/
def IsColorText (text : Text) : Prop :=
  ∃ digits, text = '#' :: digits ∧ digits.length = 6 ∧ ∀ c ∈ digits, Text.IsHexDigit c

theorem isSome_channel?_iff {high low : Char} :
    (channel? high low).isSome ↔ Text.IsHexDigit high ∧ Text.IsHexDigit low := by
  rw [← Text.isSome_hexDigit?_iff, ← Text.isSome_hexDigit?_iff]
  cases first : Text.hexDigit? high <;> cases second : Text.hexDigit? low <;>
    simp [channel?, first, second]

theorem exists_channel {high low : Char} (first : Text.IsHexDigit high)
    (second : Text.IsHexDigit low) : ∃ channel, channel? high low = some channel :=
  Option.isSome_iff_exists.mp (isSome_channel?_iff.mpr ⟨first, second⟩)

theorem exists_six {digits : Text} (six : digits.length = 6) :
    ∃ r₁ r₂ g₁ g₂ b₁ b₂, digits = [r₁, r₂, g₁, g₂, b₁, b₂] := by
  obtain ⟨r₁, _, rfl⟩ := List.exists_cons_of_length_eq_add_one six
  have five := Nat.succ.inj six
  obtain ⟨r₂, _, rfl⟩ := List.exists_cons_of_length_eq_add_one five
  have four := Nat.succ.inj five
  obtain ⟨g₁, _, rfl⟩ := List.exists_cons_of_length_eq_add_one four
  obtain ⟨g₂, b₁, b₂, rfl⟩ := List.length_eq_three.mp (Nat.succ.inj four)
  exact ⟨r₁, r₂, g₁, g₂, b₁, b₂, rfl⟩

theorem isSome_ofHex?_iff : (ofHex? text).isSome ↔ IsColorText text := by
  constructor
  · intro read
    unfold ofHex? at read
    split at read
    · rename_i r₁ r₂ g₁ g₂ b₁ b₂
      obtain ⟨color, made⟩ := Option.isSome_iff_exists.mp read
      simp only [Option.bind_eq_bind, Option.bind_eq_some_iff] at made
      obtain ⟨red, readRed, green, readGreen, blue, readBlue, _⟩ := made
      have first := isSome_channel?_iff.mp (Option.isSome_of_eq_some readRed)
      have second := isSome_channel?_iff.mp (Option.isSome_of_eq_some readGreen)
      have third := isSome_channel?_iff.mp (Option.isSome_of_eq_some readBlue)
      exact ⟨[r₁, r₂, g₁, g₂, b₁, b₂], rfl, rfl, by simp [first, second, third]⟩
    · contradiction
  · rintro ⟨digits, rfl, length, isDigit⟩
    obtain ⟨r₁, r₂, g₁, g₂, b₁, b₂, rfl⟩ := exists_six length
    simp only [List.forall_mem_cons] at isDigit
    obtain ⟨isR₁, isR₂, isG₁, isG₂, isB₁, isB₂, _⟩ := isDigit
    obtain ⟨red, readRed⟩ := exists_channel isR₁ isR₂
    obtain ⟨green, readGreen⟩ := exists_channel isG₁ isG₂
    obtain ⟨blue, readBlue⟩ := exists_channel isB₁ isB₂
    simp [ofHex?, readRed, readGreen, readBlue]

theorem exists_parse_iff : (∃ color, parse text = .ok color) ↔ IsColorText text := by
  rw [← isSome_ofHex?_iff, parse]
  cases ofHex? text <;> simp

theorem parse_eq_error_iff : parse text = .error ⟨text⟩ ↔ ¬ IsColorText text := by
  rw [← isSome_ofHex?_iff, parse]
  cases ofHex? text <;> simp

/-! ### Reading from bytes -/

theorem channelAt_append (before after : Text) {high low : Char} {channel : UInt8}
    (isDigit : ∀ c ∈ before, Text.IsHexDigit c) (first : Text.IsHexDigit high)
    (second : Text.IsHexDigit low) (read : channel? high low = some channel) :
    channelAt text (before ++ [high, low] ++ after) before.length = pure channel := by
  have slice : Text.slice? before.length (before.length + 2) (before ++ [high, low] ++ after) =
      some [high, low] :=
    Text.slice?_append before [high, low] after isDigit (by simp [first, second])
  rw [← Text.byte?_pair first second] at read
  unfold channelAt
  rw [slice]
  change (match Text.byte? [high, low] with
    | some channel => pure channel
    | none => throw ⟨text⟩ : ExceptT InvalidColor Option UInt8) = _
  rw [read]

/-- Reading from the bytes is never broken off, and comes to the same. -/
theorem readBytes_eq (text : Text) : (readBytes text).run = some (parse text) := by
  cases stripped : Text.strip? ['#'] text with
  | none =>
      have other : ¬ IsColorText text := by
        rintro ⟨digits, rfl, _⟩
        simp [Text.strip?] at stripped
      simp only [readBytes, stripped, parse_eq_error_iff.mpr other]
      rfl
  | some digits =>
      have split := Text.strip?_eq_some_iff.mp stripped
      by_cases form : (Text.bytes digits).length = 6 ∧ (Text.bytes digits).all Text.isHexByte
      · obtain ⟨length, hexadecimal⟩ := form
        have isDigit := Text.all_isHexByte_bytes.mp hexadecimal
        simp only [readBytes, stripped, length, hexadecimal, ne_eq, not_true, decide_false,
          Bool.not_true, Bool.or_false, Bool.false_eq_true, if_false]
        rw [Text.length_bytes isDigit] at length
        obtain ⟨r₁, r₂, g₁, g₂, b₁, b₂, rfl⟩ := exists_six length
        simp only [List.forall_mem_cons] at isDigit
        obtain ⟨isR₁, isR₂, isG₁, isG₂, isB₁, isB₂, _⟩ := isDigit
        obtain ⟨red, readRed⟩ := exists_channel isR₁ isR₂
        obtain ⟨green, readGreen⟩ := exists_channel isG₁ isG₂
        obtain ⟨blue, readBlue⟩ := exists_channel isB₁ isB₂
        have first : channelAt text [r₁, r₂, g₁, g₂, b₁, b₂] 0 = pure red :=
          channelAt_append [] [g₁, g₂, b₁, b₂] (List.forall_mem_nil _) isR₁ isR₂ readRed
        have second : channelAt text [r₁, r₂, g₁, g₂, b₁, b₂] 2 = pure green :=
          channelAt_append [r₁, r₂] [b₁, b₂] (by simp [isR₁, isR₂]) isG₁ isG₂ readGreen
        have third : channelAt text [r₁, r₂, g₁, g₂, b₁, b₂] 4 = pure blue :=
          channelAt_append [r₁, r₂, g₁, g₂] [] (by simp [isR₁, isR₂, isG₁, isG₂]) isB₁ isB₂
            readBlue
        have color : parse text = .ok ⟨red, green, blue⟩ := by
          simp [split, parse, ofHex?, readRed, readGreen, readBlue]
        rw [first, second, third, color]
        rfl
      · have other : ¬ IsColorText text := by
          rintro ⟨others, same, six, isDigit⟩
          cases split.symm.trans same
          exact form ⟨(Text.length_bytes isDigit).trans six, Text.all_isHexByte_bytes.mpr isDigit⟩
        have wrong : ((Text.bytes digits).length ≠ 6 || !(Text.bytes digits).all Text.isHexByte) =
            true := by
          rw [not_and_or] at form
          simpa using form
        simp only [readBytes, stripped, wrong, if_true, parse_eq_error_iff.mpr other]
        rfl

/-! ### Writing and reading back -/

theorem channel?_channelHex (channel : UInt8) :
    ∃ high low, channelHex channel = [high, low] ∧ channel? high low = some channel := by
  have bound : channel.toNat < 256 := channel.toNat_lt
  have high := Text.hexDigit?_digitChar (channel.toNat / 16) (by omega)
  have low := Text.hexDigit?_digitChar (channel.toNat % 16) (by omega)
  refine ⟨_, _, rfl, ?_⟩
  simp only [channel?, high, low, Option.bind_eq_bind, Option.bind_some, Nat.div_add_mod,
    UInt8.ofNat_toNat]
  rfl

theorem parse_toHex (color : Rgb) : parse color.toHex = .ok color := by
  obtain ⟨red, green, blue⟩ := color
  obtain ⟨r₁, r₂, redText, readRed⟩ := channel?_channelHex red
  obtain ⟨g₁, g₂, greenText, readGreen⟩ := channel?_channelHex green
  obtain ⟨b₁, b₂, blueText, readBlue⟩ := channel?_channelHex blue
  simp [parse, toHex, ofHex?, redText, greenText, blueText, readRed, readGreen, readBlue]

/-- Exactly the texts of a number sign and six hexadecimal digits are read; for every other text
there is a complaint that holds it. The bytes of a text tell the same, and cutting them never
breaks a character. A color that is read is written as its text in small letters, and every color
that is written is read back. -/
theorem reads_color_texts (text : Text) :
    ((∃ color, parse text = .ok color) ↔ IsColorText text) ∧
      (¬ IsColorText text → parse text = .error ⟨text⟩) ∧
      (readBytes text).run = some (parse text) ∧
      (∀ color, parse text = .ok color → color.toHex = text.map Char.toLower) ∧
      ∀ color : Rgb, parse color.toHex = .ok color :=
  ⟨exists_parse_iff, parse_eq_error_iff.mpr, readBytes_eq text, fun _ => toHex_of_parse,
    parse_toHex⟩

/-- Six bytes need not have a place between two characters where a color is cut. -/
example :
    (Text.bytes "ééé".toList).length = 6 ∧ Text.slice? 0 3 "ééé".toList = none := by
  decide

end Rgb

end EnergyReport
