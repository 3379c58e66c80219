import EnergyReport.Chart.Grade
import EnergyReport.Chart.Style
import EnergyReport.Json.Basic

namespace EnergyReport.Chart

/-! The energy label: seven bars, each wider than the one above it, with one grade
outlined and pointed at. -/

namespace Ladder

/-- How far the tip of a bar stands out. -/
def tip : Nat := 14

def barHeight : Nat := 22

def left : Nat := 22

def top : Nat := 28

/-- Distance from the upper edge of a bar to that of the next. -/
def barStep : Nat := barHeight + 3

def barWidth (grade : Grade) : Nat := 52 + 10 * grade.index

def barTop (grade : Grade) : Nat := top + barStep * grade.index

/-- Width of the widest bar with its tip, measured from the left edge of the drawing. -/
def widest : Nat := left + barWidth .g + tip

def width : Nat := widest + 38

def height : Nat := top + barStep * 7 + 8

def point (x y : Nat) : String :=
  toString x ++ "," ++ toString y

/-- The corners of a grade's bar, ending in a tip on the right. -/
def barPoints (grade : Grade) : String :=
  let y := barTop grade
  let right := left + barWidth grade
  " ".intercalate [point left y, point right y, point (right + tip) (y + barHeight / 2),
    point right (y + barHeight), point left (y + barHeight)]

/-- The bar of a grade with its letter; the bar of the grade shown is outlined. -/
def bar (shown grade : Grade) : List Html.Piece :=
  let (stroke, strokeWidth) := if grade = shown then (ink, "2.5") else ("none", "0")
  let letter := String.singleton grade.letter
  .selfClosed "polygon"
      [("data-grade", letter), ("points", barPoints grade), ("fill", grade.color),
        ("stroke", stroke), ("stroke-width", strokeWidth), ("stroke-linejoin", "round")] ::
    label (left + 13) (barTop grade + 15) ⟨11, some 700, grade.textColor⟩ letter

def pointer (shown : Grade) : List Html.Piece :=
  let x := widest + 8
  let middle := barTop shown + barHeight / 2
  let points :=
    " ".intercalate [point x (middle - 7), point x (middle + 7), point (x - 9) middle]
  .selfClosed "polygon" [("class", "grade-pointer"), ("points", points), ("fill", ink)] ::
    label (x + 4) (barTop shown + 15) ⟨13, some 700, ink⟩ (String.singleton shown.letter)

/-- The ladder for one grade under a title, which is written as it is. -/
def pieces (shown : Grade) (title : String) : List Html.Piece :=
  Html.element "svg"
    [("viewBox", s!"0 0 {width} {height}"), ("width", toString width)]
    (Html.element "text"
        [("x", toString (width / 2)), ("y", "17"), ("text-anchor", "middle"), ("font-size", "9"),
          ("font-weight", "600"), ("fill", mutedInk), ("font-family", fontFamily),
          ("letter-spacing", "0.8")]
        [.verbatim title] ++
      Grade.all.flatMap (bar shown) ++ pointer shown)

end Ladder

def energyTitle : String := "CLASSE ÉNERGÉTIQUE"

def emissionsTitle : String := "CLASSE CLIMAT CO₂"

/-- The ladder for a text that names a grade; nothing for other texts. -/
def ladderFor (title : String) (text : Option Text) : List Html.Piece :=
  match text.bind Grade.ofText? with
  | some grade => Ladder.pieces grade title
  | none => []

/-- The two ladders side by side. One that has no grade is left out, and without any the
chart is empty. -/
def energyLabel (energy emissions : Option Text) : List Html.Piece :=
  let ladders := ladderFor energyTitle energy ++ ladderFor emissionsTitle emissions
  if ladders.isEmpty then []
  else
    Html.element "div"
      [("class", "chart-wrap"), ("style", "display:flex;gap:24px;flex-wrap:wrap")] ladders

def energyKey : Text := "classe".toList

def emissionsKey : Text := "classe_co2".toList

def energyLabelOf (payload : Json) : List Html.Piece :=
  energyLabel ((payload.member? energyKey).bind Json.text?)
    ((payload.member? emissionsKey).bind Json.text?)

end EnergyReport.Chart
