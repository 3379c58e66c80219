import EnergyReport.Report.Summary
import EnergyReport.Proofs.Chart.Grade
import EnergyReport.Proofs.Document.Vocabulary
import EnergyReport.Proofs.Text.Basic

namespace EnergyReport.Report

open Html Document

/-! The key figures are written as they are, and they hold no character of markup: what
each search takes from a report is a grade letter, or digits with blanks among them. -/

theorem plain_of_holds (holds : Char → Bool) (refused : markupChars.all fun c => !holds c)
    {text : Text} (among : ∀ c ∈ text, holds c = true) : Plain text := by
  intro c member markup
  have contra := List.all_eq_true.mp refused c markup
  rw [among c member] at contra
  contradiction

namespace Summary

theorem exists_cell_of_figure {phrase : List Text} {recognise : Text → Option Text}
    {text value : Text} (found : figure? phrase recognise text = some value) :
    ∃ cell, recognise cell = some value := by
  obtain ⟨_, place, _, there⟩ := Text.exists_place_of_firstMatch found
  simp only [Option.bind_eq_bind, Option.bind_eq_some_iff] at there
  obtain ⟨_, _, cell, _, recognised⟩ := there
  exact ⟨cell, recognised⟩

theorem plain_letter {cell value : Text} (found : letter? cell = some value) : Plain value := by
  obtain ⟨letter, leading, rfl⟩ := Option.map_eq_some_iff.mp found
  apply plain_of_holds Chart.Grade.isLetter (by decide)
  intro c member
  rw [List.mem_singleton.mp member]
  exact (Chart.Grade.leadingLetter?_eq_some_iff.mp leading).1

theorem plain_amount {unit : Char} {cell value : Text} (found : amount? unit cell = some value) :
    Plain value := by
  simp only [amount?] at found
  split at found
  · split at found
    · cases found
      apply plain_of_holds (fun c => Text.isDigit c || Text.isBlank c) (by decide)
      intro c member
      have inRun := Text.mem_of_mem_trim member
      exact List.all_eq_true.mp List.all_takeWhile c inRun
    · contradiction
  · contradiction

theorem plain_year {cell value : Text} (found : year? cell = some value) : Plain value := by
  simp only [year?] at found
  split at found
  · rename_i digits
    cases found
    apply plain_of_holds Text.isDigit (by decide)
    simp only [Bool.and_eq_true, List.all_eq_true] at digits
    exact digits.2
  · contradiction

/-- The figures of a report, as they stand in the panel. -/
def figures (summary : Summary) : List Text :=
  summary.energyGrade.toList ++ summary.surface.toList ++ summary.constructionYear.toList ++
    summary.annualCost.toList

theorem plain_figures (text : Text) : ∀ figure ∈ (ofText text).figures, Plain figure := by
  intro figure member
  simp only [figures, List.mem_append, Option.mem_toList] at member
  rcases member with ((found | found) | found) | found
  · exact plain_letter (exists_cell_of_figure found).choose_spec
  · exact plain_amount (exists_cell_of_figure found).choose_spec
  · exact plain_year (exists_cell_of_figure found).choose_spec
  · exact plain_amount (exists_cell_of_figure found).choose_spec

variable {scope : Scope}

theorem safe_optionalItem (entry : TagEntry) {name : String} {value : List Attribute}
    {unit : Text} {figure : Option Text} (listed : entry ∈ vocabulary)
    (opens : entry.form = .opening)
    (tag : entry.tag = "div") (admitted : Admitted scope entry.slots value)
    (plainName : Plain name.toList) (plainUnit : Plain unit)
    (plain : ∀ content, figure = some content → Plain content) :
    AllSafe scope (optionalItem name value unit figure) := by
  have boxes : classTag "div" pageClasses ∈ vocabulary := by decide
  cases figure with
  | none => exact AllSafe.nil
  | some content =>
      have inside : AllSafe scope [.verbatim (String.ofList (content ++ unit))] :=
        .verbatim (by simp [plain content rfl, plainUnit])
      refine AllSafe.append.mpr ⟨AllSafe.classed boxes (by decide) ?_, .verbatim (by decide)⟩
      refine AllSafe.append.mpr ⟨AllSafe.classed boxes (by decide) (.verbatim plainName), ?_⟩
      exact tag ▸ AllSafe.element entry listed opens admitted inside

theorem safe_pieces (text : Text) :
    AllSafe scope ((ofText text).pieces (String.ofList scope.primary.toHex)) := by
  have boxes : classTag "div" pageClasses ∈ vocabulary := by decide
  have newline : AllSafe scope [newline] := .verbatim (by decide)
  have value : "summary-value" ∈ pageClasses := by decide
  have plainEntry : Admitted scope (classTag "div" pageClasses).slots plainValue :=
    .cons ⟨rfl, value⟩ .nil
  refine AllSafe.append.mpr ⟨AllSafe.classed boxes (by decide) ?_, newline⟩
  refine AllSafe.append.mpr ⟨AllSafe.append.mpr ⟨AllSafe.append.mpr ⟨AllSafe.append.mpr
    ⟨newline, ?_⟩, newline⟩, ?_⟩, newline⟩
  · exact AllSafe.classed boxes (by decide) (.verbatim (by decide))
  · refine AllSafe.classed boxes (by decide) (AllSafe.append.mpr ⟨AllSafe.append.mpr
      ⟨AllSafe.append.mpr ⟨AllSafe.append.mpr ⟨newline, ?_⟩, ?_⟩, ?_⟩, ?_⟩)
    · refine safe_optionalItem gradeValueTag (by decide) rfl rfl ?_ (by decide) .nil ?_
      · exact .cons ⟨rfl, rfl⟩ (.cons ⟨rfl, rfl⟩ .nil)
      · exact fun content found => plain_figures text content (by simp [figures, found])
    · refine safe_optionalItem _ boxes rfl rfl plainEntry (by decide) (by decide) ?_
      exact fun content found => plain_figures text content (by simp [figures, found])
    · refine safe_optionalItem _ boxes rfl rfl plainEntry (by decide) .nil ?_
      exact fun content found => plain_figures text content (by simp [figures, found])
    · refine safe_optionalItem _ boxes rfl rfl plainEntry (by decide) (by decide) ?_
      exact fun content found => plain_figures text content (by simp [figures, found])

end Summary

end EnergyReport.Report
