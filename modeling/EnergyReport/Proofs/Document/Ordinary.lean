import EnergyReport.Document.Page
import EnergyReport.Proofs.Chart.Safety
import EnergyReport.Proofs.Html.Entries
import EnergyReport.Proofs.Html.Nesting

namespace EnergyReport.Document

open Html

/-! Pieces that are whole elements and neither lists nor parts of the table of contents.

They may stand anywhere in a page without touching the lists around them, and they never look
like a banner or like a link to one. Charts and the formatting of lines are made of them. -/

/-- The classes of banners, of the links to them and of the page with the links. -/
def contentsClasses : List String := ["section-separator", "sommaire-item", "sommaire-page"]

def isOrdinaryTag (tag : String) : Bool :=
  tag ∉ ["strong", "em", "li", "ul", "ol"]

def isOrdinary (attributes : List Attribute) : Bool :=
  contentsClasses.all fun name => !hasClass name attributes

theorem isOrdinary_cons (value : String) (others : List Attribute) :
    isOrdinary (("class", value) :: others) = isOrdinary [("class", value)] := by
  simp only [isOrdinary, hasClass_cons]

theorem isOrdinary_of_classless {attributes : List Attribute}
    (classless : ∀ given ∈ attributes, given.1 ≠ "class") : isOrdinary attributes := by
  simp [isOrdinary, hasClass_of_classless classless]

inductive Ordinary : List Piece → Prop where
  | nil : Ordinary []
  | append {first second : List Piece} (left : Ordinary first) (right : Ordinary second) :
      Ordinary (first ++ second)
  | text (content : Text) : Ordinary [.text content]
  | verbatim {content : String} (plain : Plain content.toList) : Ordinary [.verbatim content]
  | void {tag : String} (attributes : List Attribute) (ordinary : isOrdinaryTag tag) :
      Ordinary [.void tag attributes]
  | selfClosed {tag : String} (attributes : List Attribute) (ordinary : isOrdinaryTag tag) :
      Ordinary [.selfClosed tag attributes]
  /-- Formatting may begin and end anywhere. -/
  | opening {tag : String} (inline : tag ∈ ["strong", "em"]) : Ordinary [.opening tag []]
  | closing {tag : String} (inline : tag ∈ ["strong", "em"]) : Ordinary [.closing tag]
  | element {tag : String} {attributes : List Attribute} {content : List Piece}
      (ordinary : isOrdinaryTag tag) (outside : isOrdinary attributes)
      (inside : Ordinary content) : Ordinary (Html.element tag attributes content)

namespace Ordinary

variable {pieces : List Piece}

theorem cons {piece : Piece} (alone : Ordinary [piece]) (rest : Ordinary pieces) :
    Ordinary (piece :: pieces) :=
  alone.append rest

theorem flatMap {α : Type} {parts : List α} {write : α → List Piece}
    (ordinary : ∀ part ∈ parts, Ordinary (write part)) : Ordinary (parts.flatMap write) := by
  induction parts with
  | nil => exact nil
  | cons part rest ih =>
      obtain ⟨here, others⟩ := List.forall_mem_cons.mp ordinary
      exact here.append (ih others)

theorem isSettled (ordinary : Ordinary pieces) : IsSettled pieces := by
  induction ordinary with
  | nil => exact .nil
  | append _ _ left right => exact left.append right
  | text content => exact .text content
  | verbatim plain => exact .verbatim plain
  | void attributes ordinary =>
      simp only [isOrdinaryTag, decide_eq_true_eq, List.mem_cons, not_or] at ordinary
      exact .void rfl ordinary.2.2.1
  | selfClosed attributes ordinary =>
      simp only [isOrdinaryTag, decide_eq_true_eq, List.mem_cons, not_or] at ordinary
      exact .void rfl ordinary.2.2.1
  | @opening tag inline =>
      refine .inlineTag ?_ rfl
      simp only [List.mem_cons, List.not_mem_nil, or_false] at inline
      rcases inline with rfl | rfl <;> decide
  | @closing tag inline =>
      refine .inlineTag ?_ rfl
      simp only [List.mem_cons, List.not_mem_nil, or_false] at inline
      rcases inline with rfl | rfl <;> decide
  | element ordinary _ _ ih =>
      simp only [isOrdinaryTag, decide_eq_true_eq, List.mem_cons, List.not_mem_nil, or_false,
        not_or] at ordinary
      exact .element (by simp [ordinary]) (by simp [ordinary, itemName, listNames]) ih

theorem allOutside (ordinary : Ordinary pieces) : AllOutside contentsClasses pieces := by
  induction ordinary with
  | nil => exact allOutside_nil
  | append _ _ left right => exact allOutside_append.mpr ⟨left, right⟩
  | verbatim plain => exact allOutside_cons.mpr ⟨isOutside_verbatim plain, allOutside_nil⟩
  | element _ outside _ ih =>
      refine allOutside_element.mpr ⟨fun name member => ?_, ih⟩
      simpa using List.all_eq_true.mp outside name member
  | _ => simp [hasClass]

end Ordinary

end EnergyReport.Document
