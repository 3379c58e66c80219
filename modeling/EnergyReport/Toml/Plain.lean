import EnergyReport.Text.Digit
import EnergyReport.Text.Basic

namespace EnergyReport.Toml

/-! Values that are written without quotation marks: truth values, numbers, dates and
times. A recogniser looks at the whole of such a word. -/

/-- Digits with single underscores between them. -/
def isGrouped (isDigit : Char → Bool) (text : Text) : Bool :=
  (Text.splitOn '_' text).all fun group => !group.isEmpty && group.all isDigit

def withoutSign : Text → Text
  | '+' :: rest => rest
  | '-' :: rest => rest
  | text => text

/-- Decimal digits without a needless zero at the front. -/
def isWhole (text : Text) : Bool :=
  isGrouped Char.isDigit text && (text = ['0'] || text.head? ≠ some '0')

/-- The value of digits with underscores, in some base. -/
def groupedValue (base : Nat) (text : Text) : Nat :=
  (text.filter (· ≠ '_')).foldl (fun value c => value * base + (Text.hexDigit? c).getD 0) 0

def isBinaryDigit (c : Char) : Bool := c = '0' || c = '1'

def isOctalDigit (c : Char) : Bool := '0' ≤ c && c ≤ '7'

def isHexDigit (c : Char) : Bool := (Text.hexDigit? c).isSome

/-- The least whole number that is too great. -/
def integerLimit : Nat := 1 <<< 128

def isInteger : Text → Bool
  | '0' :: 'x' :: digits => isGrouped isHexDigit digits && groupedValue 16 digits < integerLimit
  | '0' :: 'o' :: digits => isGrouped isOctalDigit digits && groupedValue 8 digits < integerLimit
  | '0' :: 'b' :: digits => isGrouped isBinaryDigit digits && groupedValue 2 digits < integerLimit
  | text =>
      let digits := withoutSign text
      isWhole digits && groupedValue 10 digits < integerLimit

/-- A decimal number with a point, an exponent or both; or a word for what is no number. -/
def isFloat (text : Text) : Bool :=
  let unsigned := withoutSign text
  if unsigned = "inf".toList || unsigned = "nan".toList then true
  else
    let isMark := fun c => c = 'e' || c = 'E'
    let mantissa := unsigned.takeWhile fun c => !isMark c
    let exponent := unsigned.drop mantissa.length
    let whole := mantissa.takeWhile (· ≠ '.')
    let fraction := mantissa.drop whole.length
    isWhole whole && !(fraction.isEmpty && exponent.isEmpty) &&
      (fraction.isEmpty || isGrouped Char.isDigit (fraction.drop 1)) &&
      (exponent.isEmpty || isGrouped Char.isDigit (withoutSign (exponent.drop 1)))

def twoDigits? : Text → Option (Nat × Text)
  | a :: b :: rest => (Text.natural? [a, b]).map (·, rest)
  | _ => none

def isLeapYear (year : Nat) : Bool :=
  year % 4 = 0 && (year % 100 ≠ 0 || year % 400 = 0)

def daysOfMonth (year month : Nat) : Nat :=
  if month = 2 then if isLeapYear year then 29 else 28
  else if month = 4 || month = 6 || month = 9 || month = 11 then 30
  else 31

/-- What follows a date at the beginning of a text. -/
def afterDate? (text : Text) : Option Text := do
  let (century, rest) ← twoDigits? text
  let (yearOfCentury, rest) ← twoDigits? rest
  let rest ← Text.strip? ['-'] rest
  let (month, rest) ← twoDigits? rest
  let rest ← Text.strip? ['-'] rest
  let (day, rest) ← twoDigits? rest
  let year := century * 100 + yearOfCentury
  if 1 ≤ month && month ≤ 12 && 1 ≤ day && day ≤ daysOfMonth year month then return rest
  else none

/-- What follows the fraction of a second, which may be missing. -/
def afterFraction? : Text → Option Text
  | '.' :: rest =>
      let digits := rest.takeWhile Char.isDigit
      if digits.isEmpty then none else some (rest.drop digits.length)
  | text => some text

/-- What follows the seconds of a time, which may be missing. A leap second counts. -/
def afterSeconds? : Text → Option Text
  | ':' :: rest => do
      let (second, rest) ← twoDigits? rest
      if 60 < second then none
      afterFraction? rest
  | text => some text

/-- What follows a time of the day at the beginning of a text. -/
def afterTime? (text : Text) : Option Text := do
  let (hour, rest) ← twoDigits? text
  let rest ← Text.strip? [':'] rest
  let (minute, rest) ← twoDigits? rest
  if 23 < hour || 59 < minute then none
  afterSeconds? rest

/-- Whether the text is nothing, or the distance from universal time. -/
def isOffset : Text → Bool
  | [] => true
  | [c] => c = 'Z' || c = 'z'
  | sign :: rest =>
      (sign = '+' || sign = '-') &&
        (match twoDigits? rest with
          | some (hour, ':' :: more) =>
              match twoDigits? more with
              | some (minute, []) => hour ≤ 23 && minute ≤ 59
              | _ => false
          | _ => false)

def isDateTime (text : Text) : Bool :=
  match afterDate? text with
  | some [] => true
  | some (c :: rest) =>
      (c = 'T' || c = 't' || c = ' ') &&
        (match afterTime? rest with
          | some offset => isOffset offset
          | none => false)
  | none => afterTime? text = some []

/-- Whether a word is a value of one of these kinds. -/
def isPlain (text : Text) : Bool :=
  text = "true".toList || text = "false".toList || isInteger text || isFloat text ||
    isDateTime text

end EnergyReport.Toml
