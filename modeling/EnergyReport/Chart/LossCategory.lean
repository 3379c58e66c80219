import EnergyReport.Text.Blank

namespace EnergyReport.Chart

/-! The parts of a building through which heat is lost. -/

inductive LossCategory where
  | walls
  | roof
  | joinery
  | floors
  | thermalBridges
  | other
  deriving Repr, DecidableEq

namespace LossCategory

def all : List LossCategory := [.walls, .roof, .joinery, .floors, .thermalBridges, .other]

def key : LossCategory → Text
  | .walls => "murs".toList
  | .roof => "toiture".toList
  | .joinery => "menuiseries".toList
  | .floors => "planchers".toList
  | .thermalBridges => "ponts_thermiques".toList
  | .other => "autres".toList

def label : LossCategory → String
  | .walls => "Murs / Façades"
  | .roof => "Toiture / Combles"
  | .joinery => "Menuiseries"
  | .floors => "Planchers"
  | .thermalBridges => "Ponts thermiques"
  | .other => "Autres"

def color : LossCategory → String
  | .walls => "#5590ee"
  | .roof => "#f59e0b"
  | .joinery => "#10b981"
  | .floors => "#ef4444"
  | .thermalBridges => "#8b5cf6"
  | .other => "#94a3b8"

/-- The form in which keys are compared: small letters, and an underscore for each blank
or hyphen. The keys are ASCII, so no other letters need a small form. -/
def normalizeKey (key : Text) : Text :=
  key.map fun c => if Text.isBlank c || c = '-' then '_' else c.toLower

/-- The category that a key names, in any spelling with the same normal form. -/
def ofKey? (key : Text) : Option LossCategory :=
  all.find? fun category => category.key = normalizeKey key

end LossCategory

end EnergyReport.Chart
