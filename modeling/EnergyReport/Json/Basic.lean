import EnergyReport.Text.Basic

namespace EnergyReport

/-! JSON values. The members of an object keep the order of the text. -/

/-- A number as it is written: whole numbers of up to 64 bits keep their exact value,
all others are the floating-point number they stand for. -/
inductive Json.Number where
  | natural (value : Nat)
  /-- The number `-magnitude`. -/
  | negative (magnitude : Nat)
  | real (value : Float)

def Json.Number.toFloat : Json.Number → Float
  | .natural value => Float.ofNat value
  | .negative magnitude => -Float.ofNat magnitude
  | .real value => value

inductive Json where
  | null
  | bool (value : Bool)
  | number (value : Json.Number)
  | string (value : Text)
  | array (items : List Json)
  | object (members : List (Text × Json))

namespace Json

/-- Gives `key` a value: in place where the key is present, else at the end. -/
def insertMember (key : Text) (value : Json) : List (Text × Json) → List (Text × Json)
  | [] => [(key, value)]
  | (present, old) :: rest =>
      if present = key then (key, value) :: rest
      else (present, old) :: insertMember key value rest

/-- The member of an object under `key`; other values have no members. -/
def member? (key : Text) : Json → Option Json
  | .object members => (members.find? (·.1 = key)).map (·.2)
  | _ => none

def text? : Json → Option Text
  | .string value => some value
  | _ => none

end Json

end EnergyReport
