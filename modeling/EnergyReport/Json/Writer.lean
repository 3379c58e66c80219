import EnergyReport.Text.Basic

namespace EnergyReport.Json

/-! Writing a flat object on one line. -/

inductive Scalar where
  /-- A text without quotation marks, backslashes and controls. -/
  | text (value : Text)
  | natural (value : Nat)
  deriving Repr, DecidableEq

def writeText (text : Text) : Text :=
  '"' :: text ++ ['"']

def Scalar.write : Scalar → Text
  | .text value => writeText value
  | .natural value => Nat.toDigits 10 value

def writeMember : Text × Scalar → Text
  | (key, value) => writeText key ++ ':' :: value.write

/-- The object with these members, in their order. -/
def writeObject (members : List (Text × Scalar)) : Text :=
  '\x7b' :: List.intercalate [','] (members.map writeMember) ++ ['\x7d']

end EnergyReport.Json
