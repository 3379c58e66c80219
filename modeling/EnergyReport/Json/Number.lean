import EnergyReport.Json.Basic
import EnergyReport.Text.Digit

namespace EnergyReport.Json

/-! Reading a number.

The digits are gathered into a significand of 64 bits; digits that no longer fit count
as a power of ten before the point and are dropped after it. A number with a point, an
exponent or too many digits is the significand, as a floating-point number, multiplied
or divided by the power of ten. -/

/-- The least number that a significand cannot hold. -/
def significandLimit : Nat := 1 <<< 64

/-- Appends digits to a significand while it has room; also the digits left over. -/
def gatherDigits : Nat → List Char → Nat × List Char
  | significand, [] => (significand, [])
  | significand, digit :: rest =>
      let next := significand * 10 + (digit.toNat - '0'.toNat)
      if next < significandLimit then gatherDigits next rest
      else (significand, digit :: rest)

def powerOfTen (exponent : Nat) : Float :=
  Float.ofScientific 1 false exponent

/-- Divides by a power of ten, in steps of the greatest one that is finite. -/
def divideByPower (x : Float) (exponent : Nat) : Float :=
  if exponent ≤ 308 then x / powerOfTen exponent
  else if x == 0 then x
  else divideByPower (x / powerOfTen 308) (exponent - 308)
termination_by exponent

/-- The value `significand * 10 ^ exponent`; none where it is out of range. -/
def scale? (significand : Nat) : Int → Option Float
  | .ofNat exponent =>
      let x := Float.ofNat significand
      if exponent ≤ 308 then
        let product := x * powerOfTen exponent
        if product.isInf then none else some product
      else if significand = 0 then some x
      else none
  | .negSucc exponent => some (divideByPower (Float.ofNat significand) (exponent + 1))

def signed (negative : Bool) (x : Float) : Number :=
  .real (if negative then -x else x)

/-- The greatest magnitude of a negative whole number. -/
def greatestMagnitude : Nat := 1 <<< 63

/-- The number without a point or an exponent: exact where 64 bits hold it. Zero with a
minus sign is the negative zero. -/
def wholeNumber (negative : Bool) (significand : Nat) : Number :=
  if !negative then .natural significand
  else if significand = 0 || greatestMagnitude < significand then signed true (Float.ofNat significand)
  else .negative significand

def exponentLimit : Nat := 0x7FFFFFFF

/-- Reads the digits of an exponent, after its mark, and finishes the number. An
exponent beyond the limit leaves zero, unless the number would be out of range. -/
def readExponent (negative : Bool) (significand : Nat) (scale : Int) (text : Text) :
    Option (Number × Text) :=
  let (down, unsigned) :=
    match text with
    | '+' :: rest => (false, rest)
    | '-' :: rest => (true, rest)
    | _ => (false, text)
  let digits := unsigned.takeWhile Char.isDigit
  let rest := unsigned.dropWhile Char.isDigit
  if digits.isEmpty then none
  else
    match Text.natural? digits with
    | none => none
    | some exponent =>
        if exponentLimit < exponent then
          if significand ≠ 0 && !down then none else some (signed negative 0, rest)
        else
          let total := if down then scale - exponent else scale + exponent
          (scale? significand total).map fun x => (signed negative x, rest)

/-- Reads what may follow the digits: an exponent, or the end of the number. -/
def finishNumber (negative : Bool) (significand : Nat) (scale : Int) (text : Text) :
    Option (Number × Text) :=
  match text with
  | 'e' :: rest => readExponent negative significand scale rest
  | 'E' :: rest => readExponent negative significand scale rest
  | _ => (scale? significand scale).map fun x => (signed negative x, text)

/-- Reads a number after its sign. A zero at the front stands alone, and a point has
digits on both sides. -/
def readNumber (negative : Bool) (text : Text) : Option (Number × Text) :=
  let digits := text.takeWhile Char.isDigit
  let rest := text.dropWhile Char.isDigit
  if digits.isEmpty || (digits.head? = some '0' && 1 < digits.length) then none
  else
    let (significand, dropped) := gatherDigits 0 digits
    match rest with
    | '.' :: afterPoint =>
        let fraction := afterPoint.takeWhile Char.isDigit
        let afterFraction := afterPoint.dropWhile Char.isDigit
        if fraction.isEmpty then none
        else
          let (extended, ignored) := gatherDigits significand fraction
          let scale : Int := dropped.length - (fraction.length - ignored.length : Nat)
          finishNumber negative extended scale afterFraction
    | 'e' :: _ => finishNumber negative significand dropped.length rest
    | 'E' :: _ => finishNumber negative significand dropped.length rest
    | _ =>
        if dropped.isEmpty then some (wholeNumber negative significand, rest)
        else finishNumber negative significand dropped.length rest

end EnergyReport.Json
