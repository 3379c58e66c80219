import EnergyReport.Proofs.Html.Entries

namespace EnergyReport.Html

/-! The elements of a page, in the order in which they begin. -/

structure Element where
  name : String
  attributes : List Attribute
  /-- The characters between the beginning of the element and the next tag. -/
  text : Text
  deriving Repr, DecidableEq

def elements : List Token → List Element
  | [] => []
  | .tag (.opening name attributes) :: rest =>
      ⟨name, attributes, leadingText rest⟩ :: elements rest
  | .tag (.void name attributes) :: rest => ⟨name, attributes, []⟩ :: elements rest
  | _ :: rest => elements rest

theorem flatMap_tokens_verbatim {characters : String} (plain : Plain characters.toList) :
    [Piece.verbatim characters].flatMap Piece.tokens = characters.toList.map .char := by
  simp [Piece.tokens, tokens_of_tagless plain.not_mem.2.1]

/-- The pieces are read as the elements, whatever is read behind them. -/
def Shows (pieces : List Piece) (shown : List Element) : Prop :=
  ∀ rest, elements (pieces.flatMap Piece.tokens ++ rest) = shown ++ elements rest

namespace Shows

variable {first second content : List Piece} {shown shownFirst shownSecond : List Element}
  {name : String} {attributes : List Attribute}

theorem elements_tokens (shows : Shows content shown) :
    elements (content.flatMap Piece.tokens) = shown := by
  simpa [elements] using shows []

theorem nil : Shows [] [] := fun _ => rfl

theorem append (showsFirst : Shows first shownFirst) (showsSecond : Shows second shownSecond) :
    Shows (first ++ second) (shownFirst ++ shownSecond) := by
  intro rest
  rw [List.flatMap_append, List.append_assoc, showsFirst, showsSecond, List.append_assoc]

theorem selfClosed : Shows [.selfClosed name attributes] [⟨name, attributes, []⟩] :=
  fun _ => rfl

/-- A piece of plain characters begins no element. -/
theorem verbatim {characters : String} (plain : Plain characters.toList) :
    Shows [.verbatim characters] [] := by
  intro rest
  rw [flatMap_tokens_verbatim plain, List.nil_append]
  induction characters.toList with
  | nil => rfl
  | cons c text ih => exact ih

theorem element (inside : Shows content shown) :
    Shows (Html.element name attributes content)
      (⟨name, attributes, leadingText (content.flatMap Piece.tokens)⟩ :: shown) := by
  intro rest
  have parts : (Html.element name attributes content).flatMap Piece.tokens ++ rest =
      .tag (.opening name attributes) ::
        (content.flatMap Piece.tokens ++ .tag (.closing name) :: rest) := by
    simp [Html.element, Piece.tokens]
  rw [parts, elements, leadingText_append_tag, inside]
  rfl

theorem plainElement {characters : String} (plain : Plain characters.toList) :
    Shows (Html.element name attributes [.verbatim characters])
      [⟨name, attributes, characters.toList⟩] := by
  have text : leadingText ([Piece.verbatim characters].flatMap Piece.tokens) =
      characters.toList := by
    rw [flatMap_tokens_verbatim plain, leadingText_map_char]
  exact text ▸ element (verbatim plain)

end Shows

end EnergyReport.Html
