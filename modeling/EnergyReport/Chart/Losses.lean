import EnergyReport.Chart.LossCategory
import EnergyReport.Chart.Style
import EnergyReport.Json.Basic
import EnergyReport.Number.Decimal

namespace EnergyReport.Chart

/-! The heat losses as a pie with a legend.

Each category's wedge has its share of the total weight, and the legend shows the weight
itself. The layout of the wedges is the same for every kind of number; charts are drawn
with floating-point numbers. -/

structure LossEntry (α : Type) where
  category : LossCategory
  weight : α

/-- A wedge of the pie; angles are in degrees, clockwise from the top. -/
structure Wedge (α : Type) where
  category : LossCategory
  weight : α
  start : α
  sweep : α

namespace Losses

section Layout

variable {α : Type} [Add α] [Mul α] [Div α] [OfNat α 0] [OfNat α 360]

def total (entries : List (LossEntry α)) : α :=
  entries.foldl (fun sum entry => sum + entry.weight) 0

/-- Wedges one after the other from an angle on, for a given total. -/
def wedgesFrom (total : α) : α → List (LossEntry α) → List (Wedge α)
  | _, [] => []
  | start, entry :: rest =>
      let sweep := entry.weight / total * 360
      ⟨entry.category, entry.weight, start, sweep⟩ :: wedgesFrom total (start + sweep) rest

def wedges (entries : List (LossEntry α)) : List (Wedge α) :=
  wedgesFrom (total entries) 0 entries

end Layout

/-- The entry for a key and a weight: the key names a category, and the weight is finite
and positive. -/
def entry? (key : Text) (weight : Float) : Option (LossEntry Float) :=
  match LossCategory.ofKey? key with
  | some category => if weight.isFinite && 0 < weight then some ⟨category, weight⟩ else none
  | none => none

def ofPairs (pairs : List (Text × Float)) : List (LossEntry Float) :=
  pairs.filterMap fun (key, weight) => entry? key weight

/-- The weight that a member of a payload gives: a number, or the number at the beginning
of a string. -/
def weightOf? : Json → Option Float
  | .number value => some value.toFloat
  | .string text => (Number.leadingDecimal? (Text.trimStart text)).bind (·.toFloat?)
  | _ => none

/-- The valid entries of a payload. Only an object has any. -/
def ofJson : Json → List (LossEntry Float)
  | .object members =>
      ofPairs (members.filterMap fun (key, value) => (weightOf? value).map (key, ·))
  | _ => []

def center : Float := 105

def radius : Float := 85

/-- Sweeps from this angle on are drawn as a full circle. -/
def fullCircle : Float := 359.9

/-- The ratio of a circle's circumference to its diameter. -/
def circleRatio : Float := 3.141592653589793

def pointAt (angle : Float) : Float × Float :=
  let radians := (angle - 90) * circleRatio / 180
  (center + radius * radians.cos, center + radius * radians.sin)

/-- The outline of a wedge between two angles. A single arc cannot go all the way round,
so a full circle is drawn as two halves. -/
def outline (start stop : Float) : String :=
  let r := Number.showCoordinate radius
  let c := Number.showCoordinate center
  if stop - start ≥ fullCircle then
    let left := Number.showCoordinate (center - radius)
    let right := Number.showCoordinate (center + radius)
    s!"M {left} {c} A {r} {r} 0 1 1 {right} {c} A {r} {r} 0 1 1 {left} {c}"
  else
    let (startX, startY) := pointAt start
    let (stopX, stopY) := pointAt stop
    let largeArc := if stop - start > 180 then "1" else "0"
    s!"M {c} {c} L {Number.showCoordinate startX} {Number.showCoordinate startY} " ++
      s!"A {r} {r} 0 {largeArc} 1 {Number.showCoordinate stopX} {Number.showCoordinate stopY} Z"

def wedgePiece (wedge : Wedge Float) : Html.Piece :=
  .selfClosed "path"
    [("d", outline wedge.start (wedge.start + wedge.sweep)), ("fill", wedge.category.color),
      ("stroke", "#fff"), ("stroke-width", "2")]

def legendTop : Nat := 28

def legendStep : Nat := 38

/-- The weight as the legend shows it, rounded to a whole number. -/
def legendWeight (weight : Float) : String :=
  Number.showCoordinate (Number.round weight) ++ "%"

def legendRow (y : Nat) (wedge : Wedge Float) : List Html.Piece :=
  .selfClosed "circle"
      [("cx", "228"), ("cy", toString (y + 6)), ("r", "7"), ("fill", wedge.category.color)] ::
    (label 242 (y + 10) ⟨12, none, legendInk⟩ wedge.category.label ++
      label 242 (y + 25) ⟨11, some 600, ink⟩ (legendWeight wedge.weight))

def legendFrom : Nat → List (Wedge Float) → List Html.Piece
  | _, [] => []
  | y, wedge :: rest => legendRow y wedge ++ legendFrom (y + legendStep) rest

def width : Nat := 430

def height (rows : Nat) : Nat :=
  max 210 (legendTop + legendStep * rows + 15)

def pieces (entries : List (LossEntry Float)) : List Html.Piece :=
  if entries.isEmpty then []
  else
    let wedges := wedges entries
    Html.element "div" [("class", "chart-wrap")]
      (Html.element "svg"
        [("viewBox", s!"0 0 {width} {height entries.length}"), ("width", "100%"),
          ("style", s!"max-width:{width}px")]
        (wedges.map wedgePiece ++ legendFrom legendTop wedges))

end Losses

def lossesOf (payload : Json) : List Html.Piece :=
  Losses.pieces (Losses.ofJson payload)

end EnergyReport.Chart
