import EnergyReport.Html.Piece

namespace EnergyReport.Markup

/-! The numbered sections of a report and the banners between them. -/

/-- A section; numbers start at one. -/
structure Section where
  number : Nat
  title : Text
  deriving Repr, DecidableEq

namespace Section

/-- The greatest number; sections beyond it keep it. -/
def greatestNumber : Nat := 0xFFFFFFFF

/-- The section after `count` others. -/
def following (count : Nat) (title : Text) : Section :=
  ⟨min (count + 1) greatestNumber, title⟩

/-- Banner color of a number; five colors take turns. -/
def colorOf (number : Nat) : String :=
  match (number - 1) % 5 with
  | 0 => "#47b5e8"
  | 1 => "#7ed321"
  | 2 => "#f5a623"
  | 3 => "#4a90e2"
  | _ => "#bd10e0"

def color (sec : Section) : String := colorOf sec.number

def label (sec : Section) : String :=
  if sec.number < 10 then "0" ++ toString sec.number else toString sec.number

/-- The name under which links reach the section. -/
def anchor (sec : Section) : String := "section-" ++ sec.label

def banner (sec : Section) : List Html.Piece :=
  Html.element "div"
    [("class", "section-separator"), ("id", sec.anchor), ("style", "background: " ++ sec.color)]
    (Html.element "div" [("class", "section-number")] [.verbatim (sec.label ++ ".")] ++
      Html.textElement "div" [("class", "section-title")] sec.title)

end Section

end EnergyReport.Markup
