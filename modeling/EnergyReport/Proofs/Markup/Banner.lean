import EnergyReport.Proofs.Markup.Nesting
import EnergyReport.Proofs.Markup.Numbering

namespace EnergyReport.Markup

open Html Document

/-! The banners that the page of a report shows are those of its sections, and no two of them
have one name. -/

namespace Section

/-- A label is the decimal form of its number, whatever its width. -/
theorem ofDigitChars_label (sec : Section) :
    Nat.ofDigitChars 10 sec.label.toList 0 = sec.number := by
  have digits : (toString sec.number).toList = Nat.toDigits 10 sec.number := by
    rw [Nat.toString_eq_ofList_toDigits, String.toList_ofList]
  unfold label
  split
  · have padded : ("0" ++ toString sec.number).toList = '0' :: Nat.toDigits 10 sec.number := by
      rw [String.toList_append, digits]
      rfl
    rw [padded, Nat.ofDigitChars_cons]
    exact Nat.ofDigitChars_ten_toDigits
  · rw [digits]
    exact Nat.ofDigitChars_ten_toDigits

theorem number_eq_of_anchor_eq {first second : Section} (same : first.anchor = second.anchor) :
    first.number = second.number := by
  have label : first.label = second.label := by
    have chars := congrArg String.toList same
    simp only [anchor, String.toList_append] at chars
    exact String.toList_injective (List.append_cancel_left chars)
  rw [← first.ofDigitChars_label, label, second.ofDigitChars_label]

/-- Sections with different numbers have different names. -/
theorem nodup_anchors {sections : List Section} (distinct : (sections.map number).Nodup) :
    (sections.map anchor).Nodup := by
  rw [List.Nodup, List.pairwise_map] at distinct ⊢
  exact distinct.imp fun differ same => differ (number_eq_of_anchor_eq same)

/-- How the banners of sections are marked. -/
def bannerKind : EntryKind where
  entry := "section-separator"
  target := "id"
  number := "section-number"
  title := "section-title"

/-- What the banner of a section says. -/
def bannerEntry (sec : Section) : Html.Entry :=
  ⟨some sec.anchor, sec.label.toList ++ ['.'], escape sec.title⟩

theorem entries_banner (sec : Section) (rest : List Token) :
    entries bannerKind (sec.banner.flatMap Piece.tokens ++ rest) =
      sec.bannerEntry :: entries bannerKind rest := by
  have isEntry : hasClass bannerKind.entry [("class", "section-separator"), ("id", sec.anchor),
      ("style", "background: " ++ sec.color)] := by
    simp only [hasClass_cons]
    decide
  have read := @entries_element bannerKind "div" "div" _ _ sec.title isEntry
    sec.plain_bannerNumber rest
  rw [String.toList_append] at read
  exact read

end Section

/-- A banner neither is a link to one nor begins a page of links. -/
theorem Section.allOutside_banner (sec : Section) :
    AllOutside ["sommaire-item", "sommaire-page"] sec.banner := by
  have outer : ∀ one ∈ ["sommaire-item", "sommaire-page"],
      hasClass one [("class", "section-separator"), ("id", sec.anchor),
        ("style", "background: " ++ sec.color)] = false := by
    simp only [hasClass_cons]
    decide
  have inner : ∀ name ∈ ["section-number", "section-title"],
      ∀ one ∈ ["sommaire-item", "sommaire-page"], hasClass one [("class", name)] = false := by
    decide
  simp [banner, textElement, outer, inner, isOutside_verbatim sec.plain_bannerNumber]

/-- Blocks other than banners do not look like banners, like links to them or like pages of
links. -/
theorem Block.allOutside_pieces {block : Block} (noBanner : ∀ sec, block ≠ .banner sec) :
    AllOutside contentsClasses block.pieces := by
  cases block with
  | list kind items =>
      have classless : ∀ one ∈ contentsClasses, hasClass one [] = false := by decide
      refine allOutside_element.mpr ⟨classless, .flatMap fun content _ => ?_⟩
      exact allOutside_element.mpr ⟨classless, (Inline.ordinary_pieces _ content).allOutside⟩
  | banner sec => exact absurd rfl (noBanner sec)
  | _ => exact (Block.ordinary_pieces noBanner (by simp)).allOutside

/-- The banners of a body are those of its sections, in their order. -/
theorem Body.entries_pieces (body : Body) (rest : List Token) :
    entries Section.bannerKind (body.pieces.flatMap Piece.tokens ++ rest) =
      body.sections.map Section.bannerEntry ++ entries Section.bannerKind rest := by
  obtain ⟨blocks⟩ := body
  induction blocks with
  | nil => rfl
  | cons block others ih =>
      have following : entries Section.bannerKind
          ((others.flatMap Block.pieces).flatMap Piece.tokens ++ rest) =
          (others.filterMap Block.section?).map Section.bannerEntry ++
            entries Section.bannerKind rest := ih
      rw [Body.pieces, Body.sections, List.flatMap_cons, List.flatMap_append, List.append_assoc]
      cases block with
      | banner sec =>
          rw [Block.pieces, Section.entries_banner, following]
          rfl
      | _ =>
          rw [Html.entries_pieces _ (by decide) (Block.allOutside_pieces (by simp)), following]
          rfl

/-- No block of a body looks like a link of the table of contents. -/
theorem Body.allOutside_pieces (body : Body) :
    AllOutside ["sommaire-item", "sommaire-page"] body.pieces := by
  refine .flatMap fun block _ => ?_
  cases block with
  | banner sec => exact sec.allOutside_banner
  | _ => exact (Block.allOutside_pieces (by simp)).mono (by decide)

end EnergyReport.Markup
