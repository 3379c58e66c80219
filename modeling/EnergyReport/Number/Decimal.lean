import EnergyReport.Number.Binary64
import EnergyReport.Text.Digit

namespace EnergyReport.Number

/-! Decimal writing of numbers: the text of a coordinate, and the number at the
beginning of a text. -/

/-- Hundredths as a decimal without needless zeros: `1250` is `12.5`, `1200` is `12`. -/
def showHundredths (count : Nat) : String :=
  let whole := toString (count / 100)
  let cents := count % 100
  if cents = 0 then whole
  else if cents % 10 = 0 then whole ++ "." ++ toString (cents / 10)
  else if cents < 10 then whole ++ ".0" ++ toString cents
  else whole ++ "." ++ toString cents

/-- The text of a coordinate: two places at most, no trailing zeros, and no sign on
zero. -/
def showCoordinate (x : Float) : String :=
  match Binary64.ofFloat (round (x * 100) / 100) with
  | .notANumber => "NaN"
  | .infinite negative => if negative then "-inf" else "inf"
  | .finite negative significand exponent =>
      if significand = 0 then "0"
      else
        let digits := showHundredths (hundredths significand exponent)
        if negative then "-" ++ digits else digits

/-- The floating-point number nearest to `significand * 10 ^ exponent`. Far beyond the
range of such numbers the result is infinity or zero without computing the power. -/
def ofDecimal (significand : Nat) (exponent : Int) : Float :=
  if significand = 0 then 0
  else
    let magnitude : Int := (Nat.toDigits 10 significand).length + exponent
    if magnitude > 400 then 1.0 / 0.0
    else if magnitude < -400 then 0
    else
      match exponent with
      | .ofNat power => Float.ofScientific significand false power
      | .negSucc power => Float.ofScientific significand true (power + 1)

structure DecimalParts where
  negative : Bool
  whole : List Char
  fraction : List Char
  exponentNegative : Bool
  exponent : List Char
  deriving Repr, DecidableEq

/-- Drops a sign and says whether it was a minus. -/
def readSign : List Char → Bool × List Char
  | '+' :: rest => (false, rest)
  | '-' :: rest => (true, rest)
  | text => (false, text)

/-- The exponent at the beginning of a text: `e`, an optional sign, and at least one
digit. Without it there is none, and the empty run of digits stands for it. -/
def readExponent : List Char → Bool × List Char
  | mark :: rest =>
      if mark = 'e' || mark = 'E' then
        let (negative, afterSign) := readSign rest
        (negative, afterSign.takeWhile Text.isDigit)
      else (false, [])
  | [] => (false, [])

/-- The longest decimal number at the beginning of a text: an optional sign, digits
with an optional point among or before them, and an optional exponent. The digits may
be those of any script. -/
def leadingDecimal? (text : List Char) : Option DecimalParts :=
  let (negative, unsigned) := readSign text
  let whole := unsigned.takeWhile Text.isDigit
  let afterWhole := unsigned.dropWhile Text.isDigit
  let (fraction, afterFraction) :=
    match afterWhole with
    | '.' :: rest => (rest.takeWhile Text.isDigit, rest.dropWhile Text.isDigit)
    | _ => ([], afterWhole)
  if whole.isEmpty && fraction.isEmpty then none
  else
    let (exponentNegative, exponent) := readExponent afterFraction
    some { negative, whole, fraction, exponentNegative, exponent }

/-- The value of the parts. Only ASCII digits have one. -/
def DecimalParts.toFloat? (parts : DecimalParts) : Option Float := do
  let significand ← Text.natural? (parts.whole ++ parts.fraction)
  let exponent ← Text.natural? parts.exponent
  let scale : Int := (if parts.exponentNegative then -(exponent : Int) else exponent) -
    parts.fraction.length
  let magnitude := ofDecimal significand scale
  return if parts.negative then -magnitude else magnitude

end EnergyReport.Number
