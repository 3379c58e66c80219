namespace EnergyReport.Document

/-! Dates as French writes them. -/

inductive Month where
  | january | february | march | april | may | june | july | august | september | october
  | november | december
  deriving Repr, DecidableEq

namespace Month

def all : List Month :=
  [.january, .february, .march, .april, .may, .june, .july, .august, .september, .october,
    .november, .december]

def ofNumber? (number : Nat) : Option Month :=
  if number = 0 then none else all[number - 1]?

def frenchName : Month → String
  | .january => "janvier"
  | .february => "février"
  | .march => "mars"
  | .april => "avril"
  | .may => "mai"
  | .june => "juin"
  | .july => "juillet"
  | .august => "août"
  | .september => "septembre"
  | .october => "octobre"
  | .november => "novembre"
  | .december => "décembre"

end Month

structure Date where
  year : Int
  month : Month
  day : Nat
  deriving Repr, DecidableEq

/-- The date in words, as `07 octobre 2026`. -/
def Date.inFrench (date : Date) : String :=
  let day := if date.day < 10 then "0" ++ toString date.day else toString date.day
  day ++ " " ++ date.month.frenchName ++ " " ++ toString date.year

end EnergyReport.Document
