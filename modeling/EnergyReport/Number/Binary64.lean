namespace EnergyReport.Number

/-! What a floating-point number of 64 bits stands for, as exact integers. -/

inductive Binary64 where
  | notANumber
  | infinite (negative : Bool)
  /-- The number `significand * 2 ^ exponent`, or its negative. -/
  | finite (negative : Bool) (significand : Nat) (exponent : Int)
  deriving Repr, DecidableEq

/-- The leading bit of a significand, which the bits of a number leave out. -/
def leadingBit : Nat := 1 <<< 52

/-- Takes the bits apart: one sign bit, eleven of exponent, fifty-two of significand. -/
def Binary64.ofFloat (x : Float) : Binary64 :=
  let bits := x.toBits.toNat
  let negative := bits >>> 63 == 1
  let exponent : Nat := (bits >>> 52) % 2048
  let fraction : Nat := bits % leadingBit
  if exponent = 2047 then
    if fraction = 0 then .infinite negative else .notANumber
  else if exponent = 0 then .finite negative fraction (-1074)
  else .finite negative (leadingBit + fraction) ((exponent : Int) - 1075)

/-- The magnitude `significand * 2 ^ exponent` as a whole number; a half goes up. -/
def roundMagnitude (significand : Nat) (exponent : Int) : Nat :=
  match exponent with
  | .ofNat shift => significand <<< shift
  | .negSucc below => (significand + (1 <<< below)) >>> (below + 1)

/-- The nearest whole number as a floating-point number, a half going away from zero.
A number without a fractional part, or that is not finite, stays as it is. -/
def round (x : Float) : Float :=
  match Binary64.ofFloat x with
  | .finite negative significand (.negSucc below) =>
      let magnitude := Float.ofNat (roundMagnitude significand (.negSucc below))
      if negative then -magnitude else magnitude
  | _ => x

/-- The quotient rounded to the nearest whole number, a half going to the even
neighbour. -/
def divideToEven (dividend divisor : Nat) : Nat :=
  let below := dividend / divisor
  let twice := 2 * (dividend % divisor)
  if twice < divisor then below
  else if divisor < twice then below + 1
  else if below % 2 = 0 then below
  else below + 1

/-- The magnitude `significand * 2 ^ exponent` in hundredths, to the nearest one, a
half going to the even neighbour. -/
def hundredths (significand : Nat) (exponent : Int) : Nat :=
  match exponent with
  | .ofNat shift => (significand <<< shift) * 100
  | .negSucc below => divideToEven (significand * 100) (1 <<< (below + 1))

end EnergyReport.Number
