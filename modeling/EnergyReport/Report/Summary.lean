import EnergyReport.Chart.Grade
import EnergyReport.Html.Piece
import EnergyReport.Report.Phrase

namespace EnergyReport.Report

/-! The key figures of a report. -/

/-- The figures that the table rows of a report tell; each may be missing. -/
structure Summary where
  energyGrade : Option Text
  /-- Living area in square meters. -/
  surface : Option Text
  constructionYear : Option Text
  /-- Energy cost of a year in euros. -/
  annualCost : Option Text
  deriving Repr, DecidableEq

namespace Summary

/-- What `recognise` finds in the cell after the first phrase where it succeeds; it sees
the text after the bar. -/
def figure? (phrase : List Text) (recognise : Text → Option Text) (text : Text) : Option Text :=
  Text.firstMatch
    (fun place => do
      let afterPhrase ← afterPhrase? phrase place
      let cell ← afterBar? afterPhrase
      recognise cell)
    text

def letter? (cell : Text) : Option Text :=
  (Chart.Grade.leadingLetter? (Text.trimStart cell)).map fun letter => [letter]

/-- The digits and blanks of a cell up to its unit, trimmed. There is at least one
character before the unit. -/
def amount? (unit : Char) (cell : Text) : Option Text :=
  let run := cell.takeWhile fun c => Text.isDigit c || Text.isBlank c
  match run, cell.drop run.length with
  | _ :: _, c :: _ => if Text.foldCase c = unit then some (Text.trim run) else none
  | _, _ => none

def year? (cell : Text) : Option Text :=
  let digits := (Text.trimStart cell).take 4
  if digits.length = 4 && digits.all Text.isDigit then some digits else none

def ofText (text : Text) : Summary where
  energyGrade :=
    figure? ["classe".toList, "énergétique".toList, "actuelle".toList] letter? text
  surface := figure? ["surface".toList, "habitable".toList] (amount? 'm') text
  constructionYear :=
    figure? ["année".toList, "de".toList, "construction".toList] year? text
  annualCost := figure? ["coût".toList, "annuel".toList] (amount? '€') text

/-- An entry of the panel; the value is written as it is. -/
def item (name : String) (value : List Html.Attribute) (content : Text) : List Html.Piece :=
  Html.element "div" [("class", "summary-item")]
      (Html.element "div" [("class", "summary-label")] [.verbatim name] ++
        Html.element "div" value [.verbatim (String.ofList content)]) ++
    [Html.newline]

def plainValue : List Html.Attribute := [("class", "summary-value")]

/-- An entry for a figure; nothing where it is missing. -/
def optionalItem (name : String) (value : List Html.Attribute) (unit : Text)
    (figure : Option Text) : List Html.Piece :=
  match figure with
  | some content => item name value (content ++ unit)
  | none => []

/-- The panel of the key figures, with the grade in the color `primary`. It is there even
when no figure is. -/
def pieces (summary : Summary) (primary : String) : List Html.Piece :=
  let gradeValue :=
    [("class", "summary-value summary-value-large"), ("style", "color: " ++ primary)]
  Html.element "div" [("class", "summary-card")]
      ([Html.newline] ++
        Html.element "div" [("class", "summary-title")] [.verbatim "📊 Synthèse du diagnostic"] ++
        [Html.newline] ++
        Html.element "div" [("class", "summary-grid")]
          ([Html.newline] ++
            optionalItem "Classe énergétique" gradeValue [] summary.energyGrade ++
            optionalItem "Surface habitable" plainValue " m²".toList summary.surface ++
            optionalItem "Année de construction" plainValue [] summary.constructionYear ++
            optionalItem "Coût annuel estimé" plainValue " €".toList summary.annualCost) ++
        [Html.newline]) ++
    [Html.newline]

end Summary

end EnergyReport.Report
