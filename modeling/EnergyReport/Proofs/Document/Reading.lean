import EnergyReport.Proofs.Document.Vocabulary
import EnergyReport.Proofs.Html.Tokens

namespace EnergyReport.Document

open Html

/-! What a document made of the vocabulary is read as: each of its pieces is read as the tag or
the characters that it is, whatever stands around it. -/

variable {scope : Scope}

/-- A tag with a proper name; what is known to have no content is not opened. -/
structure TagEntry.IsProper (entry : TagEntry) : Prop where
  isName : IsName entry.tag
  opens : entry.form = .opening → entry.tag ∉ voidNames
  empty : entry.form = .void → entry.tag ∈ voidNames

instance (entry : TagEntry) : Decidable entry.IsProper :=
  decidable_of_iff (IsName entry.tag ∧ (entry.form = .opening → entry.tag ∉ voidNames) ∧
      (entry.form = .void → entry.tag ∈ voidNames))
    ⟨fun ⟨isName, opens, empty⟩ => ⟨isName, opens, empty⟩,
      fun ⟨isName, opens, empty⟩ => ⟨isName, opens, empty⟩⟩

theorem isProper_of_mem_vocabulary {entry : TagEntry} (listed : entry ∈ vocabulary) :
    entry.IsProper := by
  have page : ∀ entry ∈ pageTags, entry.IsProper := by decide
  have markup : ∀ entry ∈ markupTags, entry.IsProper := by decide
  have chart : ∀ entry ∈ chartTags, entry.IsProper := by decide
  simp only [vocabulary, List.mem_append] at listed
  rcases listed with (inPage | inMarkup) | inChart
  · exact page entry inPage
  · exact markup entry inMarkup
  · exact chart entry inChart

theorem plainAttributes_of_admitted {entry : TagEntry} {attributes : List Attribute}
    (clean : ∀ image ∈ scope.images, Plain image.mediaType.toList) (listed : entry ∈ vocabulary)
    (admitted : Admitted scope entry.slots attributes) : PlainAttributes attributes := by
  have fixed := plain_of_mem_vocabulary listed
  intro given member
  obtain ⟨slot, among, sameName, value⟩ := admitted.exists_slot member
  have texts : ∀ text ∈ slot.1 :: slot.2.texts, Plain text.toList := fun text inSlot =>
    fixed text (List.mem_cons_of_mem entry.tag (List.mem_flatMap.mpr ⟨slot, among, inSlot⟩))
  have name : Plain given.1.toList := sameName ▸ texts slot.1 (by simp)
  exact ⟨name, Slot.plain_of_admits clean (fun text inSlot => texts text (by simp [inSlot])) value⟩

theorem OwnTag.isReadable {piece : Piece} (own : OwnTag scope piece)
    (clean : ∀ image ∈ scope.images, Plain image.mediaType.toList) : piece.IsReadable := by
  cases own with
  | documentType =>
      intro rest
      have inner : '>' ∉ "!DOCTYPE html".toList := by decide
      exact tokens_tag inner rest
  | @entry entry attributes listed admitted =>
      obtain ⟨isName, opens, empty⟩ := isProper_of_mem_vocabulary listed
      have plain := plainAttributes_of_admitted clean listed admitted
      cases form : entry.form with
      | opening => exact .opening isName plain (opens form)
      | void => exact .void isName plain (empty form)
      | selfClosed => exact .selfClosed isName plain
  | closing listed opens => exact .closing (isProper_of_mem_vocabulary listed).isName

theorem AllSafe.isReadable {pieces : List Piece} (safe : AllSafe scope pieces)
    (clean : ∀ image ∈ scope.images, Plain image.mediaType.toList) :
    ∀ piece ∈ pieces, piece.IsReadable := by
  intro piece member
  cases safe piece member with
  | tag own => exact own.isReadable clean
  | text content => exact .text content
  | plain plain => exact .verbatim plain

theorem AllSafe.tokens_render {pieces : List Piece} (safe : AllSafe scope pieces)
    (clean : ∀ image ∈ scope.images, Plain image.mediaType.toList) :
    tokens (render pieces).toList = pieces.flatMap Piece.tokens :=
  Html.tokens_render (safe.isReadable clean)

end EnergyReport.Document
