import EnergyReport.Markup.Block
import EnergyReport.Proofs.Chart.Safety

namespace EnergyReport.Markup

open Html Document

/-! The body of a report holds nothing but tags of the vocabulary, escaped text and plain
characters, whatever its text is.

Formatting may nest its tags in any way, but it never looks inside a tag or an entity: it
works on atoms, and a character is escaped only when its atom is written. -/

variable {scope : Scope}

theorem Atom.safe_pieces (atom : Atom) : AllSafe scope atom.pieces := by
  have mark (mark : Mark) : bareTag mark.tag ∈ vocabulary := by
    cases mark <;> decide
  cases atom with
  | char c => exact AllSafe.text [c]
  | opening kind =>
      exact AllSafe.cons.mpr ⟨.tag (.entry (mark kind) .nil), AllSafe.nil⟩
  | closing kind =>
      exact AllSafe.cons.mpr ⟨.tag (.closing (mark kind) rfl), AllSafe.nil⟩
  | badge badge =>
      have listed : classTag "span" badgeClasses ∈ vocabulary := by decide
      refine AllSafe.classed listed ?_ (.verbatim ?_) <;> cases badge <;> decide

theorem Inline.safe_pieces (badges : Badges) (text : Text) :
    AllSafe scope (Inline.pieces badges text) :=
  AllSafe.flatMap fun atom _ => atom.safe_pieces

theorem Callout.safe_linePieces (line : Text) : AllSafe scope (linePieces line) := by
  have listed : ⟨.void, "br", []⟩ ∈ vocabulary := by decide
  simp only [linePieces]
  split
  · exact AllSafe.cons.mpr ⟨.tag (.entry listed .nil), AllSafe.nil⟩
  · exact AllSafe.bare (by decide) (Inline.safe_pieces _ _)

theorem Callout.safe_header (kind : CalloutKind) : AllSafe scope (header kind) := by
  have listed : classTag "span" ["callout-icon", "callout-title"] ∈ vocabulary := by decide
  refine AllSafe.element calloutHeaderTag (by decide) rfl ?_ (AllSafe.append.mpr ⟨?_, ?_⟩)
  · simp only [calloutHeaderTag, admitted_cons, Slot.admits_fixed, Slot.admits_choice,
      admitted_nil]
    cases kind <;> decide
  · exact AllSafe.classed listed (by decide) (.verbatim (by cases kind <;> decide))
  · exact AllSafe.classed listed (by decide) (.verbatim (by cases kind <;> decide))

theorem Callout.safe_pieces (kind : CalloutKind) (lines : List Text) :
    AllSafe scope (pieces kind lines) := by
  have listed : classTag "div" ["section-number", "section-title", "callout-content"] ∈
      vocabulary := by decide
  refine AllSafe.element calloutTag (by decide) rfl ?_
    (AllSafe.append.mpr ⟨safe_header kind, ?_⟩)
  · simp only [calloutTag, admitted_cons, Slot.admits_choice, admitted_nil]
    cases kind <;> decide
  · exact AllSafe.classed listed (by decide) (AllSafe.flatMap fun line _ => safe_linePieces line)

namespace Table

theorem safe_row {tag : String} (listed : bareTag tag ∈ vocabulary) (line : Text) :
    AllSafe scope (row tag line) :=
  AllSafe.bare (by decide)
    (AllSafe.flatMap fun _ _ => AllSafe.bare listed (Inline.safe_pieces _ _))

theorem safe_pieces (rows : List Text) : AllSafe scope (pieces rows) := by
  cases rows with
  | nil => exact AllSafe.nil
  | cons header body =>
      refine AllSafe.bare (by decide) (AllSafe.append.mpr ⟨?_, ?_⟩)
      · exact AllSafe.bare (by decide) (safe_row (by decide) header)
      · exact AllSafe.bare (by decide) (AllSafe.flatMap fun line _ => safe_row (by decide) line)

end Table

theorem Section.safe_banner (sec : Section) : AllSafe scope sec.banner := by
  have listed : classTag "div" ["section-number", "section-title", "callout-content"] ∈
      vocabulary := by decide
  have color : "background: " ++ sec.color ∈ ["background: #47b5e8", "background: #7ed321",
      "background: #f5a623", "background: #4a90e2", "background: #bd10e0"] := by
    unfold Section.color colorOf
    split <;> decide
  have number : Plain (sec.label ++ ".").toList := by
    simp only [String.toList_append, Plain.append, plain_label, true_and]
    decide
  refine AllSafe.element bannerTag (by decide) rfl ?_ (AllSafe.append.mpr ⟨?_, ?_⟩)
  · simp only [bannerTag, admitted_cons, Slot.admits_fixed, Slot.admits_choice, color,
      admitted_nil, and_self, and_true, true_and]
    exact ⟨sec, rfl⟩
  · exact AllSafe.classed listed (by decide) (.verbatim number)
  · exact AllSafe.classed listed (by decide) (.text sec.title)

theorem Directive.safe_pieces (directive : Directive) : AllSafe scope directive.pieces := by
  unfold Directive.pieces
  split
  · exact AllSafe.nil
  · split
    · exact Chart.safe_lossesOf _
    · exact Chart.safe_energyLabelOf _
    · exact AllSafe.nil

/-- The page has no ampersand where a directive's chart is drawn. -/
theorem Directive.ampersand_not_mem_render (directive : Directive) :
    '&' ∉ (render directive.pieces).toList := by
  have safe : AllSafe ⟨⟨0, 0, 0⟩, []⟩ directive.pieces := directive.safe_pieces
  apply Document.ampersand_not_mem_render (by simp) safe
  unfold Directive.pieces
  split
  · exact Chart.Textless.nil
  · split
    · exact Chart.textless_lossesOf _
    · exact Chart.textless_energyLabelOf _
    · exact Chart.Textless.nil

theorem Block.safe_transitionChart (line : Text) : AllSafe scope (transitionChart line) := by
  unfold transitionChart
  split
  · exact AllSafe.nil
  · split
    · exact Chart.safe_comparisonOf _ _
    · exact AllSafe.nil

theorem Block.safe_pieces (block : Block) : AllSafe scope block.pieces := by
  cases block with
  | banner sec => exact sec.safe_banner
  | heading level title =>
      cases level <;> exact AllSafe.bare (by decide) (Inline.safe_pieces _ _)
  | paragraph line =>
      exact AllSafe.append.mpr
        ⟨AllSafe.bare (by decide) (Inline.safe_pieces _ _), safe_transitionChart line⟩
  | list kind items =>
      have inside : AllSafe scope (items.flatMap item) :=
        AllSafe.flatMap fun _ _ => AllSafe.bare (by decide) (Inline.safe_pieces _ _)
      cases kind <;> exact AllSafe.bare (by decide) inside
  | table rows => exact Table.safe_pieces rows
  | callout kind lines => exact Callout.safe_pieces kind lines
  | chart directive => exact directive.safe_pieces

theorem Body.safe_pieces (body : Body) : AllSafe scope body.pieces :=
  AllSafe.flatMap fun block _ => block.safe_pieces

end EnergyReport.Markup
