import EnergyReport.Chart.Grade
import EnergyReport.Chart.Style

namespace EnergyReport.Chart

/-! The grades before and after the works, one bar below the other. -/

namespace Comparison

def barHeight : Nat := 32

def left : Nat := 120

def barWidth : Nat := 200

/-- Upper edge of the bar for the grade before the works. -/
def firstRow : Nat := 40

/-- Upper edge of the bar for the grade after the works. -/
def secondRow : Nat := firstRow + barHeight + 16

def width : Nat := left + barWidth + 60

def height : Nat := secondRow + barHeight + 20

/-- A grade's bar between its caption and its name. -/
def row (caption : String) (grade : Grade) (y : Nat) : List Html.Piece :=
  label 20 (y + 20) ⟨12, none, mutedInk⟩ caption ++
    .selfClosed "rect"
        [("x", toString left), ("y", toString y), ("width", toString barWidth),
          ("height", toString barHeight), ("fill", grade.color), ("rx", "6")] ::
      label (left + barWidth + 12) (y + 20) ⟨16, some 700, grade.color⟩
        ("Classe " ++ String.singleton grade.letter)

def improvement : Html.Piece :=
  let x := left + barWidth
  let middle := secondRow + barHeight / 2
  .selfClosed "polygon"
    [("class", "improvement"),
      ("points", s!"{x + 4},{middle - 6} {x + 4},{middle + 6} {x - 2},{middle}"),
      ("fill", improvementColor)]

/-- The chart; a strictly better grade after the works is marked as an improvement. -/
def pieces (before after : Grade) : List Html.Piece :=
  Html.element "div" [("class", "chart-compare")]
    (Html.element "svg"
      [("viewBox", s!"0 0 {width} {height}"), ("width", "100%"), ("style", "max-width:450px")]
      (label 20 20 ⟨13, some 700, ink⟩ "Avant / Après travaux" ++
        row "Actuelle" before firstRow ++ row "Après" after secondRow ++
        (if after.isBetterThan before then [improvement] else [])))

end Comparison

/-- The comparison of the grades that two texts name; nothing where one names none. -/
def comparisonOf (before after : Text) : List Html.Piece :=
  match Grade.ofText? before, Grade.ofText? after with
  | some before, some after => Comparison.pieces before after
  | _, _ => []

end EnergyReport.Chart
