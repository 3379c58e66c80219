namespace EnergyReport.Text

/-! Reading UTF-8, with the place of the first fault.

A fault is a byte that no character can have at its place, or the end of the input
inside a character. -/

inductive Utf8Fault where
  /-- `length` bytes from `index` on begin no character. -/
  | invalid (length index : Nat)
  /-- The input ends inside the character that begins at `index`. -/
  | incomplete (index : Nat)
  deriving Repr, DecidableEq

def Utf8Fault.message : Utf8Fault → String
  | .invalid length index => s!"invalid utf-8 sequence of {length} bytes from index {index}"
  | .incomplete index => s!"incomplete utf-8 byte sequence from index {index}"

/-- The bytes that a character still needs: how many, and the least and the greatest
value of the next one. -/
structure Utf8Need where
  bytes : Nat
  low : Nat
  high : Nat
  deriving Repr, DecidableEq

/-- Between two characters nothing is needed. -/
def Utf8Need.nothing : Utf8Need := ⟨0, 0x80, 0xBF⟩

/-- What the first byte of a character asks for. Overlong forms, surrogates and code
points beyond the last one are excluded by the range of the second byte. -/
def Utf8Need.ofLead (byte : Nat) : Option Utf8Need :=
  if byte < 0x80 then some .nothing
  else if 0xC2 ≤ byte && byte ≤ 0xDF then some ⟨1, 0x80, 0xBF⟩
  else if byte = 0xE0 then some ⟨2, 0xA0, 0xBF⟩
  else if byte = 0xED then some ⟨2, 0x80, 0x9F⟩
  else if 0xE1 ≤ byte && byte ≤ 0xEF then some ⟨2, 0x80, 0xBF⟩
  else if byte = 0xF0 then some ⟨3, 0x90, 0xBF⟩
  else if 0xF1 ≤ byte && byte ≤ 0xF3 then some ⟨3, 0x80, 0xBF⟩
  else if byte = 0xF4 then some ⟨3, 0x80, 0x8F⟩
  else none

/-- Looks for the first fault. The character at hand begins at `start`, and `taken`
of its bytes have been read. -/
def utf8FaultFrom (start taken : Nat) (need : Utf8Need) : List UInt8 → Option Utf8Fault
  | [] => if need.bytes = 0 then none else some (.incomplete start)
  | byte :: rest =>
      if need.bytes = 0 then
        match Utf8Need.ofLead byte.toNat with
        | none => some (.invalid 1 (start + taken))
        | some next => utf8FaultFrom (start + taken) 1 next rest
      else if need.low ≤ byte.toNat && byte.toNat ≤ need.high then
        utf8FaultFrom start (taken + 1) ⟨need.bytes - 1, 0x80, 0xBF⟩ rest
      else some (.invalid taken start)

def utf8Fault? (bytes : List UInt8) : Option Utf8Fault :=
  utf8FaultFrom 0 0 .nothing bytes

/-- The text that the bytes encode, or their first fault. -/
def decodeUtf8 (bytes : ByteArray) : Except Utf8Fault String :=
  match String.fromUTF8? bytes with
  | some text => .ok text
  | none => .error ((utf8Fault? bytes.toList).getD (.incomplete bytes.size))

end EnergyReport.Text
