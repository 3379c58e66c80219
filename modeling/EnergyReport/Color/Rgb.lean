import EnergyReport.Number.Binary64
import EnergyReport.Text.Digit
import EnergyReport.Text.Quoted

namespace EnergyReport

/-! Colors with a red, a green and a blue channel of eight bits. -/

structure Rgb where
  red : UInt8
  green : UInt8
  blue : UInt8
  deriving Repr, DecidableEq

structure InvalidColor where
  text : Text
  deriving Repr, DecidableEq

def InvalidColor.message (error : InvalidColor) : String :=
  "invalid color " ++ String.ofList (Text.quoted error.text) ++ ": expected #RRGGBB"

namespace Rgb

/-- The channel that two hexadecimal digits write. -/
def channel? (high low : Char) : Option UInt8 := do
  let high ← Text.hexDigit? high
  let low ← Text.hexDigit? low
  return UInt8.ofNat (16 * high + low)

/-- The color that a number sign and six hexadecimal digits write. -/
def ofHex? : Text → Option Rgb
  | ['#', r₁, r₂, g₁, g₂, b₁, b₂] => do
      return ⟨← channel? r₁ r₂, ← channel? g₁ g₂, ← channel? b₁ b₂⟩
  | _ => none

/-- The color that a text writes, or the complaint about the text. -/
def parse (text : Text) : Except InvalidColor Rgb :=
  match ofHex? text with
  | some color => .ok color
  | none => .error ⟨text⟩

def channelHex (channel : UInt8) : Text :=
  [Nat.digitChar (channel.toNat / 16), Nat.digitChar (channel.toNat % 16)]

def toHex (color : Rgb) : Text :=
  '#' :: channelHex color.red ++ channelHex color.green ++ channelHex color.blue

/-- Moves a channel toward its greatest value by a fraction of the distance; the result
is rounded, a half going up, and kept within the channel's range. What is not a number
counts as zero. -/
def lightenChannel (channel : UInt8) (fraction : Float) : UInt8 :=
  let value := Float.ofNat channel.toNat
  match Number.Binary64.ofFloat (value + (255 - value) * fraction) with
  | .notANumber => 0
  | .infinite negative => if negative then 0 else 255
  | .finite negative significand exponent =>
      if negative then 0
      else UInt8.ofNat (min (Number.roundMagnitude significand exponent) 255)

/-- Moves a color toward white: not at all for the fraction zero, all the way for one. -/
def lighten (color : Rgb) (fraction : Float) : Rgb :=
  ⟨lightenChannel color.red fraction, lightenChannel color.green fraction,
    lightenChannel color.blue fraction⟩

end Rgb

end EnergyReport
