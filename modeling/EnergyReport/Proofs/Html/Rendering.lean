import EnergyReport.Html.Piece
import EnergyReport.Proofs.Html.Plain

namespace EnergyReport.Html

/-! The characters of a written document are those of its pieces, one after the other. -/

theorem toList_render (pieces : List Piece) :
    (render pieces).toList = pieces.flatMap fun piece => piece.render.toList := by
  simp [render, String.toList_join, List.flatMap_def, Function.comp_def]

@[simp] theorem render_nil : render [] = "" := rfl

theorem render_append (first second : List Piece) :
    render (first ++ second) = render first ++ render second := by
  apply String.toList_injective
  simp [toList_render]

theorem render_flatMap {α : Type} (parts : List α) (pieces : α → List Piece) :
    render (parts.flatMap pieces) = String.join (parts.map fun part => render (pieces part)) := by
  apply String.toList_injective
  simp [toList_render, String.toList_join, List.flatMap_assoc, List.flatMap_map]

theorem render_element (tag : String) (attributes : List Attribute) (content : List Piece) :
    render (element tag attributes content) =
      "<" ++ renderTag tag attributes ++ ">" ++ render content ++ "</" ++ tag ++ ">" := by
  apply String.toList_injective
  simp [element, toList_render, Piece.render]

/-- Every character of a text that is written part by part belongs to one of the parts, and
what follows it in the part follows it in the text. -/
theorem exists_part_of_flatMap {α : Type} {parts : List α} {write : α → Text}
    {before after : Text} {c : Char} (written : parts.flatMap write = before ++ c :: after) :
    ∃ part ∈ parts, ∃ left right, write part = left ++ c :: right ∧ c :: right <+: c :: after := by
  induction parts generalizing before with
  | nil => simp at written
  | cons part rest ih =>
      rw [List.flatMap_cons, List.append_eq_append_iff] at written
      rcases written with ⟨skipped, _, inRest⟩ | ⟨tail, inPart, remaining⟩
      · obtain ⟨found, member, place⟩ := ih inRest
        exact ⟨found, List.mem_cons_of_mem part member, place⟩
      · cases tail with
        | nil =>
            have inRest : rest.flatMap write = [] ++ c :: after := by simpa using remaining.symm
            obtain ⟨found, member, place⟩ := ih inRest
            exact ⟨found, List.mem_cons_of_mem part member, place⟩
        | cons head right =>
            simp only [List.cons_append, List.cons.injEq] at remaining
            obtain ⟨rfl, rfl⟩ := remaining
            exact ⟨part, by simp, before, right, inPart, by simp⟩

/-- The entities that escaping writes. -/
def entities : List Text := ["&amp;".toList, "&lt;".toList, "&gt;".toList]

theorem lt_not_mem_escape (text : Text) : '<' ∉ escape text := by
  simp only [escape, List.mem_flatMap, not_exists, not_and]
  intro c _
  unfold escapeChar
  split <;> simp_all [eq_comm]

/-- In escaped text every ampersand begins an entity. -/
theorem entity_of_escape {text before after : Text}
    (written : escape text = before ++ '&' :: after) :
    ∃ entity ∈ entities, entity <+: '&' :: after := by
  obtain ⟨c, _, left, right, inChar, place⟩ := exists_part_of_flatMap written
  have whole : '&' :: right ∈ entities := by
    unfold escapeChar at inChar
    split at inChar <;> cases left <;> simp_all [entities, List.cons_eq_append_iff]
  exact ⟨_, whole, place⟩

end EnergyReport.Html
