namespace EnergyReport.Binary

/-! Bytes written with sixty-four characters, three bytes in four characters. -/

def base64Digit (value : Nat) : Char :=
  if value < 26 then Char.ofNat (value + 'A'.toNat)
  else if value < 52 then Char.ofNat (value - 26 + 'a'.toNat)
  else if value < 62 then Char.ofNat (value - 52 + '0'.toNat)
  else if value = 62 then '+'
  else '/'

/-- Writes the bytes; a last group of one or two bytes is filled up with `=`. -/
def base64 : List UInt8 → List Char
  | [] => []
  | [a] =>
      let word := a.toNat * 16
      [base64Digit (word / 64), base64Digit (word % 64), '=', '=']
  | [a, b] =>
      let word := (a.toNat * 256 + b.toNat) * 4
      [base64Digit (word / 4096), base64Digit (word / 64 % 64), base64Digit (word % 64), '=']
  | a :: b :: c :: rest =>
      let word := (a.toNat * 256 + b.toNat) * 256 + c.toNat
      base64Digit (word / 262144) :: base64Digit (word / 4096 % 64) ::
        base64Digit (word / 64 % 64) :: base64Digit (word % 64) :: base64 rest

end EnergyReport.Binary
