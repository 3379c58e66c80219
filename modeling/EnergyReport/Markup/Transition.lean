import EnergyReport.Chart.Grade
import EnergyReport.Text.Blank
import EnergyReport.Text.Case

namespace EnergyReport.Markup.Transition

/-! A change from one grade to another, as a sentence mentions it: `D → B`, `d -> c` or
`classe E vers classe B`. -/

/-- What follows the arrow or the word for it at the beginning of a text. -/
def stripArrow? (text : Text) : Option Text :=
  match Text.strip? ['→'] text with
  | some rest => some rest
  | none =>
      match Text.strip? ['-', '>'] text with
      | some rest => some rest
      | none => Text.stripWord? "vers".toList text

/-- The grade letter after an arrow. The word before it is passed over where a grade
letter follows it. -/
def target? (text : Text) : Option Char :=
  let target := Text.trimStart text
  match Text.stripWord? "classe".toList target with
  | some rest =>
      match Chart.Grade.leadingLetter? (Text.trimStart rest) with
      | some letter => some letter
      | none => Chart.Grade.leadingLetter? target
  | none => Chart.Grade.leadingLetter? target

/-- The two letters of a transition whose first letter begins the text. -/
def at? : Text → Option (Char × Char)
  | [] => none
  | c :: rest => do
      if !Chart.Grade.isLetter c then none
      let afterArrow ← stripArrow? (Text.trimStart rest)
      let target ← target? afterArrow
      return (c, target)

/-- The two letters of the first transition in a text. -/
def find? (text : Text) : Option (Char × Char) :=
  Text.firstMatch at? text

end EnergyReport.Markup.Transition
