import EnergyReport.Text.Blank
import EnergyReport.Text.Case
import EnergyReport.Text.Digit

namespace EnergyReport.Report

/-! Finding a value by the phrase that announces it.

Values stand in table rows, in the cell after the one with the phrase; the search does
not stop at the end of a line. All words are found in any letter case. -/

/-- What follows a phrase whose words have blanks between them. -/
def afterPhrase? : List Text → Text → Option Text
  | [], text => some text
  | [word], text => Text.stripWord? word text
  | word :: more, text =>
      match Text.stripWord? word text with
      | some (c :: rest) =>
          if Text.isBlank c then afterPhrase? more (Text.trimStart rest) else none
      | _ => none

/-- What follows a phrase whose words may have blanks between them. -/
def afterCompound? : List Text → Text → Option Text
  | [], text => some text
  | [word], text => Text.stripWord? word text
  | word :: more, text =>
      match Text.stripWord? word text with
      | some rest => afterCompound? more (Text.trimStart rest)
      | none => none

def afterBar? (text : Text) : Option Text :=
  match text.dropWhile (· ≠ '|') with
  | _ :: rest => some rest
  | [] => none

/-- What follows a vertical bar that only blanks precede. -/
def afterDirectBar? (text : Text) : Option Text :=
  Text.strip? ['|'] (Text.trimStart text)

/-- The digits at the beginning of a text; there is at least one. -/
def leadingDigits? (text : Text) : Option Text :=
  match text.takeWhile Text.isDigit with
  | [] => none
  | digits => some digits

end EnergyReport.Report
