import EnergyReport.Color.Rgb

namespace EnergyReport

/-! The colors of a report: two that are chosen, and three tints of the first. -/

structure Theme where
  primary : Rgb
  secondary : Rgb
  /-- The primary color, three tenths of the way to white. -/
  light : Rgb
  /-- The primary color, seventeen twentieths of the way to white. -/
  veryLight : Rgb
  /-- The primary color, nineteen twentieths of the way to white. -/
  faint : Rgb
  deriving Repr, DecidableEq

namespace Theme

def ofColors (primary secondary : Rgb) : Theme where
  primary := primary
  secondary := secondary
  light := primary.lighten 0.3
  veryLight := primary.lighten 0.85
  faint := primary.lighten 0.95

def parse (primary secondary : Text) : Except InvalidColor Theme := do
  let primary ← Rgb.parse primary
  let secondary ← Rgb.parse secondary
  return ofColors primary secondary

def standard : Theme :=
  ofColors ⟨0x55, 0x90, 0xEE⟩ ⟨0x3B, 0x7D, 0xD8⟩

end Theme

end EnergyReport
