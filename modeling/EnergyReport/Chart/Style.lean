import EnergyReport.Html.Piece

namespace EnergyReport.Chart

/-! Fonts and inks shared by the charts. -/

def fontFamily : String := "-apple-system,sans-serif"

/-- Dark ink for outlines, pointers and emphasized labels. -/
def ink : String := "#1e293b"

def mutedInk : String := "#64748b"

def legendInk : String := "#475569"

/-- Fill of the marker that shows an improvement. -/
def improvementColor : String := "#10b981"

structure Lettering where
  size : Nat
  weight : Option Nat
  fill : String

def label (x y : Nat) (lettering : Lettering) (content : String) : List Html.Piece :=
  let weight :=
    match lettering.weight with
    | some weight => [("font-weight", toString weight)]
    | none => []
  Html.element "text"
    ([("x", toString x), ("y", toString y), ("font-size", toString lettering.size)] ++ weight ++
      [("fill", lettering.fill), ("font-family", fontFamily)])
    [.verbatim content]

end EnergyReport.Chart
