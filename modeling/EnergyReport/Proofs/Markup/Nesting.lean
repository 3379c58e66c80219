import EnergyReport.Proofs.Chart.Ordinary
import EnergyReport.Proofs.Document.Reading
import EnergyReport.Proofs.Markup.Reading
import EnergyReport.Proofs.Markup.Safety

namespace EnergyReport.Markup

open Html Document

/-! The blocks of a report are whole elements, and a list among them is never empty. So the page
of a report is nested well, whatever its last line leaves open. -/

theorem Inline.ordinary_pieces (badges : Badges) (text : Text) :
    Ordinary (Inline.pieces badges text) := by
  refine .flatMap fun atom _ => ?_
  cases atom with
  | char c => exact .text [c]
  | opening mark => exact .opening (by cases mark <;> decide)
  | closing mark => exact .closing (by cases mark <;> decide)
  | badge badge =>
      refine .element (by decide) ?_ (.verbatim ?_) <;> cases badge <;> decide

theorem Callout.ordinary_pieces (kind : CalloutKind) (lines : List Text) :
    Ordinary (pieces kind lines) := by
  have line (line : Text) : Ordinary (linePieces line) := by
    simp only [linePieces]
    split
    · exact .void [] (by decide)
    · exact .element (by decide) (by decide) (Inline.ordinary_pieces _ _)
  have icon : Plain kind.icon.toList := by cases kind <;> decide
  have title : Plain kind.title.toList := by cases kind <;> decide
  have head : Ordinary (header kind) := by
    refine .element (by decide) (by cases kind <;> decide) (.append ?_ ?_)
    · exact .element (by decide) (by decide) (.verbatim icon)
    · exact .element (by decide) (by decide) (.verbatim title)
  refine .element (by decide) (by cases kind <;> decide) (.append head ?_)
  exact .element (by decide) (by decide) (.flatMap fun one _ => line one)

theorem Table.ordinary_pieces (rows : List Text) : Ordinary (pieces rows) := by
  have row {tag : String} (ordinary : isOrdinaryTag tag) (line : Text) : Ordinary (row tag line) :=
    .element (by decide) (by decide)
      (.flatMap fun _ _ => .element ordinary (by decide) (Inline.ordinary_pieces _ _))
  cases rows with
  | nil => exact .nil
  | cons header body =>
      refine .element (by decide) (by decide) (.append ?_ ?_)
      · exact .element (by decide) (by decide) (row (by decide) header)
      · exact .element (by decide) (by decide) (.flatMap fun line _ => row (by decide) line)

theorem Directive.ordinary_pieces (directive : Directive) : Ordinary directive.pieces := by
  unfold Directive.pieces
  split
  · exact .nil
  · split
    · exact Chart.ordinary_lossesOf _
    · exact Chart.ordinary_energyLabelOf _
    · exact .nil

theorem Block.ordinary_transitionChart (line : Text) : Ordinary (transitionChart line) := by
  unfold transitionChart
  split
  · exact .nil
  · split
    · exact Chart.ordinary_comparisonOf _ _
    · exact .nil

/-- A list among the blocks has items. -/
def Block.HasItems (block : Block) : Prop :=
  ∀ kind items, block = .list kind items → items ≠ []

theorem Section.plain_bannerNumber (sec : Section) : Plain (sec.label ++ ".").toList := by
  simp only [String.toList_append, Plain.append, plain_label, true_and]
  decide

theorem Section.isSettled_banner (sec : Section) : IsSettled sec.banner := by
  refine .element (by decide) (by decide) (.append ?_ ?_)
  · exact .element (by decide) (by decide) (.verbatim sec.plain_bannerNumber)
  · exact .element (by decide) (by decide) (.text sec.title)

/-- Blocks that are neither banners nor lists are whole elements. -/
theorem Block.ordinary_pieces {block : Block} (noBanner : ∀ sec, block ≠ .banner sec)
    (noList : ∀ kind items, block ≠ .list kind items) : Ordinary block.pieces := by
  cases block with
  | banner sec => exact absurd rfl (noBanner sec)
  | list kind items => exact absurd rfl (noList kind items)
  | heading level title =>
      exact .element (by cases level <;> decide) (by decide) (Inline.ordinary_pieces _ _)
  | paragraph line =>
      exact .append (.element (by decide) (by decide) (Inline.ordinary_pieces _ _))
        (ordinary_transitionChart line)
  | table rows => exact Table.ordinary_pieces rows
  | callout kind lines => exact Callout.ordinary_pieces kind lines
  | chart directive => exact directive.ordinary_pieces

theorem Block.isSettled_pieces {block : Block} (hasItems : block.HasItems) :
    IsSettled block.pieces := by
  cases block with
  | banner sec => exact sec.isSettled_banner
  | list kind items =>
      have listed : kind.tag ∈ listNames := by cases kind <;> decide
      have nonempty : items.map (Inline.pieces .shown) ≠ [] := by
        simpa using hasItems kind items rfl
      have whole : items.flatMap item =
          (items.map (Inline.pieces .shown)).flatMap (Html.element itemName []) := by
        rw [List.flatMap_map]
        rfl
      have inside : ∀ content ∈ items.map (Inline.pieces .shown), IsSettled content :=
        List.forall_mem_map.mpr fun content _ => (Inline.ordinary_pieces _ content).isSettled
      rw [Block.pieces, whole]
      exact .list listed nonempty inside
  | _ => exact (Block.ordinary_pieces (by simp) (by simp)).isSettled

/-- The list of a run has the item that the run begins with. -/
theorem Grammar.hasItems_of_mem_runBlocks {count : Nat} {run : List Element} {block : Block}
    (member : block ∈ runBlocks count run) : block.HasItems := by
  rintro kind items rfl
  unfold runBlocks at member
  split at member
  case h_6 kind' content text rest =>
      simp only [List.mem_singleton, Block.list.injEq] at member
      simp [member.2, Element.item?]
  all_goals simp at member

theorem Grammar.hasItems_of_mem_blocksFrom {count : Nat} {parts : List (List Element)}
    {block : Block} (member : block ∈ blocksFrom count parts) : block.HasItems := by
  induction parts generalizing count with
  | nil => simp [blocksFrom] at member
  | cons run rest ih =>
      rcases List.mem_append.mp member with here | later
      · exact hasItems_of_mem_runBlocks here
      · exact ih later

theorem Body.isSettled_pieces (text : Text) : IsSettled (Body.ofText text).pieces := by
  refine .flatMap fun block member => Block.isSettled_pieces ?_
  rw [Body.blocks_ofText] at member
  exact Grammar.hasItems_of_mem_blocksFrom member

/-- The page of a body is read as what its pieces are. -/
theorem Body.tokens_render (body : Body) :
    tokens (render body.pieces).toList = body.pieces.flatMap Piece.tokens := by
  have safe : AllSafe ⟨⟨0, 0, 0⟩, []⟩ body.pieces := body.safe_pieces
  exact safe.tokens_render (by simp)

/-- After the formatting within lines is deleted, the tags of the page of any report are balanced
and nested in each other, items stand directly in lists, and every list has an item. -/
theorem wellNested_blockTags_render (text : Text) :
    wellNested (blockTags (tokens (render (Body.ofText text).pieces).toList)) := by
  rw [Body.tokens_render]
  exact wellNested_of_isSettled (Body.isSettled_pieces text)

end EnergyReport.Markup
