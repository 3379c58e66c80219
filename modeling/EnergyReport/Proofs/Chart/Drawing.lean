import EnergyReport.Number.Decimal
import EnergyReport.Proofs.Html.Plain

namespace EnergyReport.Chart

open Html

/-! The characters of coordinates and paths. -/

/-- Digits, signs and separators, the letters of paths, and the letters of the words that
stand for a coordinate that is no number. -/
def isDrawingChar (c : Char) : Bool :=
  c.isDigit || "-., MLAZNainf".toList.contains c

def Drawn (text : Text) : Prop :=
  ∀ c ∈ text, isDrawingChar c

instance (text : Text) : Decidable (Drawn text) :=
  List.decidableBAll (isDrawingChar · = true) text

namespace Drawn

@[simp] theorem append {first second : Text} :
    Drawn (first ++ second) ↔ Drawn first ∧ Drawn second :=
  List.forall_mem_append

theorem plain {text : Text} (drawn : Drawn text) : Plain text := by
  intro c member markup
  have drawing := drawn c member
  simp only [markupChars, List.mem_cons, List.not_mem_nil, or_false] at markup
  rcases markup with rfl | rfl | rfl | rfl <;> revert drawing <;> decide

@[simp] theorem toString_nat (number : Nat) : Drawn (toString number).toList := by
  intro c member
  rw [Nat.toString_eq_ofList_toDigits, String.toList_ofList] at member
  simp [isDrawingChar, Nat.isDigit_of_mem_toDigits (by decide) (by decide) member]

theorem showHundredths (count : Nat) : Drawn (Number.showHundredths count).toList := by
  have point : Drawn ".".toList := by decide
  have zero : Drawn ".0".toList := by decide
  simp only [Number.showHundredths]
  split
  · exact toString_nat _
  split
  · simp only [String.toList_append, append, toString_nat, point, and_self]
  split
  · simp only [String.toList_append, append, toString_nat, zero, and_self]
  · simp only [String.toList_append, append, toString_nat, point, and_self]

@[simp] theorem showCoordinate (x : Float) : Drawn (Number.showCoordinate x).toList := by
  have minus : Drawn "-".toList := by decide
  unfold Number.showCoordinate
  split
  · decide
  · split <;> decide
  · split
    · decide
    · split
      · simp only [String.toList_append, append, minus, showHundredths, and_self]
      · exact showHundredths _

end Drawn

end EnergyReport.Chart
