import EnergyReport.Proofs.Document.Vocabulary

namespace EnergyReport.Chart

open Html Document

/-! Charts hold nothing but tags of the vocabulary and plain characters, whatever payload
they are drawn from. -/

variable {scope : Scope}

theorem safe_label {x y : Nat} {lettering : Lettering} {content : String}
    (known : lettering.fill ∈ inks) (plain : Plain content.toList) :
    AllSafe scope (label x y lettering content) := by
  obtain ⟨size, weight, fill⟩ := lettering
  have inside : AllSafe scope [.verbatim content] := .verbatim plain
  cases weight with
  | none =>
      refine AllSafe.element labelTag (by decide) rfl ?_ inside
      simpa [labelTag] using known
  | some weight =>
      refine AllSafe.element weightedLabelTag (by decide) rfl ?_ inside
      simpa [weightedLabelTag] using known

namespace Grade

theorem mem_all (grade : Grade) : grade ∈ all := by
  cases grade <;> decide

theorem color_mem_gradeFills (grade : Grade) : grade.color ∈ gradeFills :=
  List.mem_map_of_mem grade.mem_all

theorem color_mem_inks (grade : Grade) : grade.color ∈ inks :=
  List.mem_append_right _ grade.color_mem_gradeFills

theorem textColor_mem_inks (grade : Grade) : grade.textColor ∈ inks := by
  cases grade <;> decide

theorem plain_letter (grade : Grade) : Plain (String.singleton grade.letter).toList := by
  cases grade <;> decide

end Grade

namespace Ladder

theorem safe_bar (shown grade : Grade) : AllSafe scope (bar shown grade) := by
  have letter : String.singleton grade.letter ∈ ["A", "B", "C", "D", "E", "F", "G"] := by
    cases grade <;> decide
  have points : Drawn (barPoints grade).toList := by
    cases grade <;> decide
  have polygon (stroke strokeWidth : String) (knownStroke : stroke ∈ [ink, "none"])
      (knownWidth : strokeWidth ∈ ["2.5", "0"]) :
      AllSafe scope [.selfClosed "polygon"
        [("data-grade", String.singleton grade.letter), ("points", barPoints grade),
          ("fill", grade.color), ("stroke", stroke), ("stroke-width", strokeWidth),
          ("stroke-linejoin", "round")]] := by
    refine AllSafe.selfClosed gradeBarTag (by decide) rfl ?_
    simp only [gradeBarTag, admitted_cons, Slot.admits_choice, Slot.admits_drawing,
      Slot.admits_fixed, letter, points, grade.color_mem_gradeFills, knownStroke, knownWidth,
      admitted_nil, and_self]
  have name : AllSafe scope (label (left + 13) (barTop grade + 15)
      ⟨11, some 700, grade.textColor⟩ (String.singleton grade.letter)) :=
    safe_label grade.textColor_mem_inks grade.plain_letter
  unfold bar
  split
  rename_i stroke strokeWidth chosen
  have known : stroke ∈ [ink, "none"] ∧ strokeWidth ∈ ["2.5", "0"] := by
    split at chosen <;> cases chosen <;> simp
  exact AllSafe.cons_of_alone (polygon stroke strokeWidth known.1 known.2) name

theorem safe_pointer (shown : Grade) : AllSafe scope (pointer shown) := by
  refine AllSafe.cons_of_alone ?_ (safe_label (by decide) shown.plain_letter)
  refine AllSafe.selfClosed pointerTag (by decide) rfl ?_
  simp only [pointerTag, admitted_cons, Slot.admits_choice, Slot.admits_drawing, admitted_nil]
  cases shown <;> decide

theorem safe_pieces (shown : Grade) {title : String} (plain : Plain title.toList) :
    AllSafe scope (pieces shown title) := by
  refine AllSafe.element ladderTag (by decide) rfl ?_ ?_
  · simp [ladderTag]
    decide
  · refine AllSafe.append.mpr ⟨AllSafe.append.mpr ⟨?_, ?_⟩, safe_pointer shown⟩
    · refine AllSafe.element ladderTitleTag (by decide) rfl ?_ (.verbatim plain)
      simp [ladderTitleTag, inks]
    · exact AllSafe.flatMap fun grade _ => safe_bar shown grade

end Ladder

theorem safe_energyLabel (energy emissions : Option Text) :
    AllSafe scope (energyLabel energy emissions) := by
  have ladder {title : String} {text : Option Text} (plain : Plain title.toList) :
      AllSafe scope (ladderFor title text) := by
    unfold ladderFor
    split
    · exact Ladder.safe_pieces _ plain
    · exact AllSafe.nil
  simp only [energyLabel]
  split
  · exact AllSafe.nil
  · refine AllSafe.element laddersTag (by decide) rfl (by simp [laddersTag]) ?_
    exact AllSafe.append.mpr ⟨ladder (by decide), ladder (by decide)⟩

theorem safe_comparisonOf (before after : Text) : AllSafe scope (comparisonOf before after) := by
  have row {caption : String} (grade : Grade) {y : Nat} (plain : Plain caption.toList) :
      AllSafe scope (Comparison.row caption grade y) := by
    have name : Plain ("Classe " ++ String.singleton grade.letter).toList := by
      cases grade <;> decide
    refine AllSafe.append.mpr ⟨safe_label (by decide) plain, ?_⟩
    refine AllSafe.cons_of_alone ?_ (safe_label grade.color_mem_inks name)
    refine AllSafe.selfClosed comparisonBarTag (by decide) rfl ?_
    simp [comparisonBarTag, grade.color_mem_gradeFills]
  have marker : AllSafe scope [Comparison.improvement] := by
    refine AllSafe.selfClosed pointerTag (by decide) rfl ?_
    simp [pointerTag]
    decide
  unfold comparisonOf
  split
  · rename_i before after _ _
    have listed : classTag "div" ["chart-wrap", "chart-compare"] ∈ vocabulary := by decide
    refine AllSafe.classed listed (by decide) ?_
    refine AllSafe.element wideDrawingTag (by decide) rfl ?_ ?_
    · simp [wideDrawingTag]
      decide
    · refine AllSafe.append.mpr ⟨AllSafe.append.mpr ⟨AllSafe.append.mpr ⟨?_, ?_⟩, ?_⟩, ?_⟩
      · exact safe_label (by decide) (by decide)
      · exact row before (by decide)
      · exact row after (by decide)
      · split
        · exact marker
        · exact AllSafe.nil
  · exact AllSafe.nil

namespace LossCategory

theorem color_mem_categoryFills (category : LossCategory) : category.color ∈ categoryFills := by
  cases category <;> decide

theorem plain_label (category : LossCategory) : Plain category.label.toList := by
  cases category <;> decide

end LossCategory

namespace Losses

theorem drawn_outline (start stop : Float) : Drawn (outline start stop).toList := by
  have fixed : Drawn "M ".toList ∧ Drawn " ".toList ∧ Drawn " A ".toList ∧ Drawn " 0 1 1 ".toList ∧
      Drawn " L ".toList ∧ Drawn "A ".toList ∧ Drawn " 0 ".toList ∧ Drawn " 1 ".toList ∧
      Drawn " Z".toList := by decide
  obtain ⟨move, blank, arc, half, line, arcAfter, zero, sweep, close⟩ := fixed
  simp only [outline]
  split
  · simp only [String.toList_append, Drawn.append, toString, Drawn.showCoordinate, move, blank, arc,
      half, and_self]
  · have flag : Drawn (if stop - start > 180 then "1" else "0").toList := by
      split <;> decide
    simp only [String.toList_append, Drawn.append, toString, Drawn.showCoordinate, move, blank,
      line, arcAfter, zero, sweep, close, flag, and_self]

theorem safe_wedgePiece (wedge : Wedge Float) : AllSafe scope [wedgePiece wedge] := by
  refine AllSafe.selfClosed wedgeTag (by decide) rfl ?_
  simp [wedgeTag, drawn_outline, wedge.category.color_mem_categoryFills]

theorem plain_legendWeight (weight : Float) : Plain (legendWeight weight).toList := by
  have percent : Plain "%".toList := by decide
  simp only [legendWeight, String.toList_append, Plain.append, percent, and_true]
  exact (Drawn.showCoordinate _).plain

theorem safe_legendRow (y : Nat) (wedge : Wedge Float) : AllSafe scope (legendRow y wedge) := by
  refine AllSafe.cons_of_alone ?_ (AllSafe.append.mpr ⟨?_, ?_⟩)
  · refine AllSafe.selfClosed legendMarkerTag (by decide) rfl ?_
    simp [legendMarkerTag, wedge.category.color_mem_categoryFills]
  · exact safe_label (by decide) wedge.category.plain_label
  · exact safe_label (by decide) (plain_legendWeight wedge.weight)

theorem safe_legendFrom (y : Nat) (wedges : List (Wedge Float)) :
    AllSafe scope (legendFrom y wedges) := by
  induction wedges generalizing y with
  | nil => exact AllSafe.nil
  | cons wedge rest ih => exact AllSafe.append.mpr ⟨safe_legendRow y wedge, ih _⟩

theorem drawn_viewBox (rows : Nat) : Drawn s!"0 0 {width} {height rows}".toList := by
  have lead : Drawn (toString "0 0 ").toList := by decide
  have blank : Drawn (toString " ").toList := by decide
  simp only [String.toList_append, Drawn.append, Drawn.toString_nat, lead, blank, and_true]

theorem safe_pieces (entries : List (LossEntry Float)) : AllSafe scope (pieces entries) := by
  simp only [pieces]
  split
  · exact AllSafe.nil
  · have listed : classTag "div" ["chart-wrap", "chart-compare"] ∈ vocabulary := by decide
    refine AllSafe.classed listed (by decide) ?_
    refine AllSafe.element wideDrawingTag (by decide) rfl ?_ (AllSafe.append.mpr ⟨?_, ?_⟩)
    · have wide : s!"max-width:{width}px" ∈ ["max-width:430px", "max-width:450px"] := by
        decide
      simp only [wideDrawingTag, admitted_cons, Slot.admits_drawing, Slot.admits_fixed,
        Slot.admits_choice, drawn_viewBox, wide, admitted_nil, and_self]
    · rw [← List.flatMap_pure_eq_map]
      exact AllSafe.flatMap fun wedge _ => safe_wedgePiece wedge
    · exact safe_legendFrom _ _

end Losses

theorem safe_lossesOf (payload : Json) : AllSafe scope (lossesOf payload) :=
  Losses.safe_pieces _

theorem safe_energyLabelOf (payload : Json) : AllSafe scope (energyLabelOf payload) :=
  safe_energyLabel _ _

/-! ### Charts hold no escaped text -/

/-- None of the pieces is a text that is escaped when it is written. -/
def Textless (pieces : List Piece) : Prop :=
  ∀ piece ∈ pieces, ∀ content, piece ≠ .text content

namespace Textless

@[simp] theorem append {first second : List Piece} :
    Textless (first ++ second) ↔ Textless first ∧ Textless second :=
  List.forall_mem_append

@[simp] theorem cons {piece : Piece} {rest : List Piece} :
    Textless (piece :: rest) ↔ (∀ content, piece ≠ .text content) ∧ Textless rest :=
  List.forall_mem_cons

@[simp] theorem nil : Textless [] := by simp [Textless]

@[simp] theorem element {tag : String} {attributes : List Attribute} {content : List Piece} :
    Textless (Html.element tag attributes content) ↔ Textless content := by
  simp [Html.element]

theorem flatMap {α : Type} {parts : List α} {write : α → List Piece}
    (textless : ∀ part ∈ parts, Textless (write part)) : Textless (parts.flatMap write) := by
  intro piece member
  obtain ⟨part, among, member⟩ := List.mem_flatMap.mp member
  exact textless part among piece member

end Textless

@[simp] theorem textless_label (x y : Nat) (lettering : Lettering) (content : String) :
    Textless (label x y lettering content) := by
  simp [label]

theorem textless_energyLabelOf (payload : Json) : Textless (energyLabelOf payload) := by
  have ladder (shown : Grade) (title : String) : Textless (Ladder.pieces shown title) := by
    have bars : Textless (Grade.all.flatMap (Ladder.bar shown)) :=
      Textless.flatMap fun grade _ => by simp [Ladder.bar]
    simp [Ladder.pieces, Ladder.pointer, bars]
  have side (title : String) (text : Option Text) : Textless (ladderFor title text) := by
    unfold ladderFor
    split
    · exact ladder _ title
    · exact Textless.nil
  simp only [energyLabelOf, energyLabel]
  split
  · exact Textless.nil
  · simp [side]

theorem textless_lossesOf (payload : Json) : Textless (lossesOf payload) := by
  have legend (y : Nat) (wedges : List (Wedge Float)) : Textless (Losses.legendFrom y wedges) := by
    induction wedges generalizing y with
    | nil => exact Textless.nil
    | cons wedge rest ih => simp [Losses.legendFrom, Losses.legendRow, ih]
  simp only [lossesOf, Losses.pieces]
  split
  · exact Textless.nil
  · have wedges (wedges : List (Wedge Float)) : Textless (wedges.map Losses.wedgePiece) := by
      simp [Textless, Losses.wedgePiece]
    simp [legend, wedges]

end EnergyReport.Chart
