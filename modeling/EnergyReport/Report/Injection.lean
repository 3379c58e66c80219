import EnergyReport.Chart.Grade
import EnergyReport.Chart.LossCategory
import EnergyReport.Json.Writer
import EnergyReport.Markup.Directive
import EnergyReport.Report.Phrase

namespace EnergyReport.Report

/-! Adding chart directives to a report.

A report that tells its grades or its heat losses in words gets the directives of the
charts that show them: the energy label after the heading of the score, the loss chart
after the heading of the loss analysis. Text without these headings or values stays as it
is. -/

namespace Injection

def scoreHeading : Text := "# Votre score énergétique".toList

/-- The heading of the loss analysis, with the end of its line. -/
def lossHeading : Text := "# Analyse des déperditions\n".toList

/-- What ends the loss analysis: the beginning of the next section. -/
def nextSection : Text := "\n# ".toList

def energyPhrase : List Text := ["classe".toList, "énergétique".toList, "actuelle".toList]

def emissionsPhrase : List Text := ["classe".toList, "climat".toList]

/-- The letter of the energy grade, in the cell directly after the phrase. -/
def energyLetter? (text : Text) : Option Char :=
  Text.firstMatch
    (fun place => do
      let afterPhrase ← afterPhrase? energyPhrase place
      let cell ← afterDirectBar? afterPhrase
      Chart.Grade.leadingLetter? (Text.trimStart cell))
    text

/-- The letter of the emissions grade, after the next bar that follows the phrase. -/
def emissionsLetter? (text : Text) : Option Char :=
  Text.firstMatch
    (fun place => do
      let afterPhrase ← afterPhrase? emissionsPhrase place
      let cell ← afterBar? afterPhrase
      Chart.Grade.leadingLetter? (Text.trimStart cell))
    text

def gradeValue (letter : Char) : Json.Scalar :=
  .text [letter.toUpper]

def energyDirective? (text : Text) : Option Text :=
  (energyLetter? text).map fun energy =>
    let emissions :=
      match emissionsLetter? text with
      | some letter => [(Chart.emissionsKey, gradeValue letter)]
      | none => []
    Markup.Directive.write Markup.energyLabelName
      (Json.writeObject ((Chart.energyKey, gradeValue energy) :: emissions))

/-- The categories that the loss analysis may tell, with the words for each. -/
def lossKeywords : List (Chart.LossCategory × List Text) :=
  [(.walls, ["murs".toList]), (.roof, ["toiture".toList]), (.joinery, ["menuiseries".toList]),
    (.floors, ["planchers".toList]), (.thermalBridges, ["ponts".toList, "thermiques".toList])]

def tableDigits? (keyword : List Text) (analysis : Text) : Option Text :=
  Text.firstMatch
    (fun place => do
      let afterKeyword ← afterCompound? keyword place
      let cell ← afterBar? afterKeyword
      leadingDigits? (Text.trimStart cell))
    analysis

/-- How many characters may stand between a keyword and its percentage in a sentence. -/
def proseGap : Nat := 40

/-- The digits of the first percentage soon after a keyword. -/
def proseDigits? (keyword : List Text) (analysis : Text) : Option Text :=
  Text.firstMatch
    (fun place => do
      let afterKeyword ← afterCompound? keyword place
      let gap := (afterKeyword.take (proseGap + 1)).takeWhile fun c => !Text.isDigit c
      if proseGap < gap.length then none
      let value := afterKeyword.drop gap.length
      let digits ← leadingDigits? value
      let _ ← Text.strip? ['%'] (Text.trimStart (value.drop digits.length))
      return digits)
    analysis

/-- The digits that the analysis gives for a keyword; those of a table win. -/
def keywordDigits? (keyword : List Text) (analysis : Text) : Option Text :=
  (tableDigits? keyword analysis).or (proseDigits? keyword analysis)

/-- The least number that is too large for a percentage. -/
def percentageLimit : Nat := 1 <<< 64

/-- The percentage for a keyword. Digits that are not ASCII, or too many for 64 bits, give
none. -/
def percentage? (keyword : List Text) (analysis : Text) : Option Nat := do
  let digits ← keywordDigits? keyword analysis
  let value ← Text.natural? digits
  if value < percentageLimit then return value else none

def percentages (analysis : Text) : List (Chart.LossCategory × Nat) :=
  lossKeywords.filterMap fun (category, keyword) =>
    (percentage? keyword analysis).map (category, ·)

def leastPercentages : Nat := 2

def lossDirective? (analysis : Text) : Option Text :=
  let found := percentages analysis
  if found.length < leastPercentages then none
  else
    some
      (Markup.Directive.write Markup.lossesName
        (Json.writeObject
          (found.map fun (category, value) => (category.key, .natural value))))

/-- Puts a line between two parts of a text. Where the second part is empty and the first
does not end its last line, that line is ended. -/
def insertLine (before line after : Text) : Text :=
  let lineEnd := if after.isEmpty && before.getLast? ≠ some '\n' then ['\n'] else []
  before ++ lineEnd ++ line ++ ['\n'] ++ after

/-- The text up to the end of the line with the first occurrence of `needle`, and the rest
of it. -/
def cutAfterLine? (needle text : Text) : Option (Text × Text) :=
  (Text.cut? needle text).map fun (before, after) =>
    let lineRest := after.takeWhile (· ≠ '\n')
    match after.drop lineRest.length with
    | newline :: rest => (before ++ needle ++ lineRest ++ [newline], rest)
    | [] => (before ++ needle ++ lineRest, [])

def addEnergyLabel (text : Text) : Text :=
  match energyDirective? text, cutAfterLine? scoreHeading text with
  | some directive, some (before, after) => insertLine before directive after
  | _, _ => text

def analysisOf (rest : Text) : Text :=
  match Text.cut? nextSection rest with
  | some (analysis, _) => analysis
  | none => rest

def addLossChart (text : Text) : Text :=
  match Text.cut? lossHeading text with
  | none => text
  | some (before, rest) =>
      match lossDirective? (analysisOf rest) with
      | some directive => insertLine (before ++ lossHeading) directive rest
      | none => text

end Injection

/-- The report with the directives of the charts that its values allow. -/
def injectCharts (text : Text) : Text :=
  Injection.addLossChart (Injection.addEnergyLabel text)

end EnergyReport.Report
