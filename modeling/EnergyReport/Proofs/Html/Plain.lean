import EnergyReport.Html.Piece
import EnergyReport.Proofs.Text.Basic

namespace EnergyReport.Html

/-! Text that means nothing to the reader of a document but itself: it ends no attribute
value, begins no tag and begins no entity. -/

/-- The characters that markup is made of. -/
def markupChars : List Char := ['"', '<', '>', '&']

def Plain (text : Text) : Prop :=
  ∀ c ∈ text, c ∉ markupChars

instance (text : Text) : Decidable (Plain text) :=
  List.decidableBAll (· ∉ markupChars) text

namespace Plain

@[simp] theorem nil : Plain [] := by simp [Plain]

@[simp] theorem append {first second : Text} :
    Plain (first ++ second) ↔ Plain first ∧ Plain second :=
  List.forall_mem_append

theorem flatten {texts : List Text} (plain : ∀ text ∈ texts, Plain text) :
    Plain texts.flatten := by
  intro c member
  obtain ⟨text, among, member⟩ := List.mem_flatten.mp member
  exact plain text among c member

theorem join {texts : List String} (plain : ∀ text ∈ texts, Plain text.toList) :
    Plain (String.join texts).toList := by
  rw [String.toList_join]
  apply flatten
  simpa using plain

theorem intercalate {separator : String} {texts : List String} (between : Plain separator.toList)
    (plain : ∀ text ∈ texts, Plain text.toList) :
    Plain (separator.intercalate texts).toList := by
  intro c member
  rw [String.toList_intercalate] at member
  rcases Text.mem_intercalate member with separates | ⟨_, among, inText⟩
  · exact between c separates
  · obtain ⟨text, listed, rfl⟩ := List.mem_map.mp among
    exact plain text listed c inText

theorem of_isDigit {text : Text} (digits : ∀ c ∈ text, c.isDigit) : Plain text := by
  intro c member markup
  have digit := digits c member
  simp only [markupChars, List.mem_cons, List.not_mem_nil, or_false] at markup
  rcases markup with rfl | rfl | rfl | rfl <;> contradiction

@[simp] theorem toString_nat (number : Nat) : Plain (toString number).toList := by
  apply of_isDigit
  intro c member
  rw [Nat.toString_eq_ofList_toDigits, String.toList_ofList] at member
  exact Nat.isDigit_of_mem_toDigits (by decide) (by decide) member

@[simp] theorem toString_int (number : Int) : Plain (toString number).toList := by
  cases number with
  | ofNat magnitude => exact toString_nat magnitude
  | negSucc magnitude =>
      have written : toString (Int.negSucc magnitude) = "-" ++ toString (magnitude + 1) := rfl
      rw [written, String.toList_append, append]
      exact ⟨by decide, toString_nat _⟩

/-- Whether no byte of a text belongs to a character of markup. -/
def bytes (text : String) : Bool :=
  text.toByteArray.data.toList.all fun byte =>
    !(Nat.beq byte.toNat 34 || Nat.beq byte.toNat 38 || Nat.beq byte.toNat 60 ||
      Nat.beq byte.toNat 62)

/-- The many fixed texts of a document are compared by their bytes, which need no decoding. -/
theorem of_bytes {text : String} (checked : bytes text) : Plain text.toList := by
  intro c member markup
  have among : ∀ byte ∈ String.utf8EncodeChar c, byte ∈ text.toByteArray.data.toList := by
    intro byte inChar
    rw [← String.utf8Encode_toList]
    simp only [List.utf8Encode, List.data_toByteArray]
    exact List.mem_flatMap.mpr ⟨c, member, inChar⟩
  simp only [bytes, List.all_eq_true] at checked
  simp only [markupChars, List.mem_cons, List.not_mem_nil, or_false] at markup
  rcases markup with rfl | rfl | rfl | rfl
  · exact absurd (checked 34 (among _ (by decide))) (by decide)
  · exact absurd (checked 60 (among _ (by decide))) (by decide)
  · exact absurd (checked 62 (among _ (by decide))) (by decide)
  · exact absurd (checked 38 (among _ (by decide))) (by decide)

end Plain

end EnergyReport.Html
