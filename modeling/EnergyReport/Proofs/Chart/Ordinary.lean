import EnergyReport.Proofs.Document.Ordinary

namespace EnergyReport.Chart

open Html Document

/-! Charts are drawings of whole elements, whatever payload they are drawn from. -/

theorem ordinary_label (x y : Nat) (lettering : Lettering) {content : String}
    (plain : Plain content.toList) : Ordinary (label x y lettering content) := by
  obtain ⟨size, weight, fill⟩ := lettering
  refine .element (by decide) ?_ (.verbatim plain)
  cases weight <;> exact isOrdinary_of_classless (by simp)

namespace Ladder

theorem ordinary_bar (shown grade : Grade) : Ordinary (bar shown grade) :=
  .cons (.selfClosed _ (by decide)) (ordinary_label _ _ _ grade.plain_letter)

theorem ordinary_pieces (shown : Grade) {title : String} (plain : Plain title.toList) :
    Ordinary (pieces shown title) := by
  have heading : isOrdinary [("x", toString (width / 2)), ("y", "17"), ("text-anchor", "middle"),
      ("font-size", "9"), ("font-weight", "600"), ("fill", mutedInk), ("font-family", fontFamily),
      ("letter-spacing", "0.8")] := by decide
  have frame : isOrdinary [("viewBox", s!"0 0 {width} {height}"), ("width", toString width)] := by
    decide
  refine .element (by decide) frame (.append (.append ?_ ?_) ?_)
  · exact .element (by decide) heading (.verbatim plain)
  · exact .flatMap fun grade _ => ordinary_bar shown grade
  · exact .cons (.selfClosed _ (by decide)) (ordinary_label _ _ _ shown.plain_letter)

end Ladder

theorem ordinary_energyLabel (energy emissions : Option Text) :
    Ordinary (energyLabel energy emissions) := by
  have ladder {title : String} (text : Option Text) (plain : Plain title.toList) :
      Ordinary (ladderFor title text) := by
    unfold ladderFor
    split
    · exact Ladder.ordinary_pieces _ plain
    · exact .nil
  simp only [energyLabel]
  split
  · exact .nil
  · refine .element (by decide) (by decide) (.append ?_ ?_)
    · exact ladder energy (by decide)
    · exact ladder emissions (by decide)

theorem ordinary_comparisonOf (before after : Text) : Ordinary (comparisonOf before after) := by
  have row {caption : String} (grade : Grade) (y : Nat) (plain : Plain caption.toList) :
      Ordinary (Comparison.row caption grade y) := by
    have name : Plain ("Classe " ++ String.singleton grade.letter).toList := by
      cases grade <;> decide
    exact .append (ordinary_label _ _ _ plain)
      (.cons (.selfClosed _ (by decide)) (ordinary_label _ _ _ name))
  unfold comparisonOf
  split
  · rename_i before after _ _
    refine .element (by decide) (by decide) (.element (by decide) (by decide) ?_)
    refine .append (.append (.append ?_ ?_) ?_) ?_
    · exact ordinary_label _ _ _ (by decide)
    · exact row before _ (by decide)
    · exact row after _ (by decide)
    · split
      · exact .selfClosed _ (by decide)
      · exact .nil
  · exact .nil

theorem ordinary_lossesOf (payload : Json) : Ordinary (lossesOf payload) := by
  have legend (y : Nat) (wedges : List (Wedge Float)) : Ordinary (Losses.legendFrom y wedges) := by
    induction wedges generalizing y with
    | nil => exact .nil
    | cons wedge rest ih =>
        refine .append (.cons (.selfClosed _ (by decide)) (.append ?_ ?_)) (ih _)
        · exact ordinary_label _ _ _ wedge.category.plain_label
        · exact ordinary_label _ _ _ (Losses.plain_legendWeight wedge.weight)
  simp only [lossesOf, Losses.pieces]
  split
  · exact .nil
  · have frame (height : String) : isOrdinary [("viewBox", height), ("width", "100%"),
        ("style", s!"max-width:{Losses.width}px")] :=
      isOrdinary_of_classless (by simp)
    refine .element (by decide) (by decide)
      (.element (by decide) (frame _) (.append ?_ (legend _ _)))
    rw [← List.flatMap_pure_eq_map]
    exact .flatMap fun wedge _ => .selfClosed _ (by decide)

theorem ordinary_energyLabelOf (payload : Json) : Ordinary (energyLabelOf payload) :=
  ordinary_energyLabel _ _

end EnergyReport.Chart
