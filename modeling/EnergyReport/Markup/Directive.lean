import EnergyReport.Chart.Ladder
import EnergyReport.Chart.Losses
import EnergyReport.Json.Reader
import EnergyReport.Text.Alphabetic
import EnergyReport.Text.Blank

namespace EnergyReport.Markup

/-! Chart directives: comment lines that name a chart and carry its payload as JSON.

A directive reads `<!-- chart-name: payload -->`. Blanks around the name part and around
the payload are free, and the payload lies on one line. -/

inductive ChartKind where
  | losses
  | energyLabel
  /-- Any other name; it is a directive that draws nothing. -/
  | unknown (name : Text)
  deriving Repr, DecidableEq

def lossesName : Text := "deperditions".toList

def energyLabelName : Text := "classe".toList

def ChartKind.ofName (name : Text) : ChartKind :=
  if name = lossesName then .losses
  else if name = energyLabelName then .energyLabel
  else .unknown name

/-- A chart directive; the payload is the text between the colon and the end of the
comment, without the blanks around it. -/
structure Directive where
  kind : ChartKind
  payload : Text
  deriving Repr, DecidableEq

namespace Directive

def commentStart : Text := "<!--".toList

def commentEnd : Text := "-->".toList

def namePart : Text := "chart-".toList

/-- The directive that a line without blanks at its ends consists of. -/
def ofLine? (line : Text) : Option Directive := do
  let comment ← Text.strip? commentStart line
  let named ← Text.strip? namePart (Text.trimStart comment)
  let name := named.takeWhile Text.isWord
  if name.isEmpty then none
  let rest ← Text.strip? [':'] (named.dropWhile Text.isWord)
  let body ← Text.stripEnd? commentEnd rest
  let payload := Text.trim body
  if '\n' ∈ payload then none
  return ⟨.ofName name, payload⟩

/-- The line that asks for the chart `name` with a payload. -/
def write (name payload : Text) : Text :=
  commentStart ++ [' '] ++ namePart ++ name ++ [':'] ++ payload ++ [' '] ++ commentEnd

/-- The chart of a directive. A payload that is not JSON, or that the chart cannot use,
draws nothing. -/
def pieces (directive : Directive) : List Html.Piece :=
  match Json.read directive.payload with
  | none => []
  | some payload =>
      match directive.kind with
      | .losses => Chart.lossesOf payload
      | .energyLabel => Chart.energyLabelOf payload
      | .unknown _ => []

end Directive

end EnergyReport.Markup
