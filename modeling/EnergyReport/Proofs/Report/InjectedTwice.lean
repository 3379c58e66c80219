import EnergyReport.Proofs.Report.DirectRow
import EnergyReport.Proofs.Report.LineEnding
import EnergyReport.Proofs.Report.LossLine

namespace EnergyReport.Report

/-! Putting directives into a report that has its directives.

The second pass does not look for directives that are there. It finds the same headings, and the
same values except where a line of the first pass stands between the parts of a value, or takes
the first cell of the analysis for its own words. -/

namespace Injection

variable {line word analysis : Text} {keyword : List Text}

/-- With a usable first cell, what is told without the line is told with it. -/
theorem isSome_percentage?_append (numbers : ListsNumbers line) (legal : isKeyword keyword)
    (usable : ∀ digits, firstCell? analysis = some digits → (percentageOf? digits).isSome)
    (told : (percentage? keyword analysis).isSome) :
    (percentage? keyword (line ++ '\n' :: analysis)).isSome := by
  rcases tableDigits?_append numbers legal with same | ⟨digits, cell, table⟩
  · rw [percentage?_eq] at told ⊢
    rwa [keywordDigits?, same, proseDigits?_append numbers legal]
  · rw [percentage?_eq, keywordDigits?, table, Option.some_or, Option.bind_some]
    exact usable digits cell

/-- With a first cell that tells no percentage, the line takes its own words from the analysis. -/
theorem percentage?_append_eq_none (numbers : ListsNumbers line) (legal : isKeyword [word])
    {digits : Text} (cell : firstCell? analysis = some digits)
    (unusable : percentageOf? digits = none)
    (named : percentage? [word] analysis = none ∨
      ∃ taken, taken.map Text.foldCase = word ∧ taken <:+: line) :
    percentage? [word] (line ++ '\n' :: analysis) = none := by
  have fromCell (table : tableDigits? [word] (line ++ '\n' :: analysis) = some digits) :
      percentage? [word] (line ++ '\n' :: analysis) = none := by
    rw [percentage?_eq, keywordDigits?, table, Option.some_or, Option.bind_some, unusable]
  rcases named with silent | ⟨taken, folded, before, behind, parts⟩
  · rcases tableDigits?_append numbers legal with same | ⟨other, otherCell, table⟩
    · rw [percentage?_eq] at silent ⊢
      rwa [keywordDigits?, same, proseDigits?_append numbers legal]
    · rw [cell] at otherCell
      cases otherCell
      exact fromCell table
  · rw [List.append_assoc] at parts
    exact fromCell (tableDigits?_of_mem numbers legal parts.symm folded cell)

theorem isKeyword_of_mem : ∀ entry ∈ lossKeywords, isKeyword entry.2 := by
  decide

/-- Apart from one, each category is looked for by its key. -/
theorem keyword_eq_key : ∀ entry ∈ lossKeywords, entry.1 = .thermalBridges ∨
    entry.2 = [entry.1.key] ∧ entry.1.key.map Text.foldCase = entry.1.key := by
  decide

theorem lossDirective?_eq_none_iff :
    lossDirective? analysis = none ↔ (percentages analysis).length < leastPercentages := by
  simp only [lossDirective?]
  split <;> simp_all

theorem length_percentages_le_append (numbers : ListsNumbers line)
    (usable : ∀ digits, firstCell? analysis = some digits → (percentageOf? digits).isSome) :
    (percentages analysis).length ≤ (percentages (line ++ '\n' :: analysis)).length := by
  rw [percentages, percentages, List.length_filterMap_eq_countP, List.length_filterMap_eq_countP]
  refine List.countP_mono_left fun entry member told => ?_
  simp only [Option.isSome_map] at told ⊢
  exact isSome_percentage?_append numbers (isKeyword_of_mem entry member) usable told

/-- All categories that are told are named in the line, so only one that is not looked for by its
key may be left. -/
theorem length_percentages_append_le (numbers : ListsNumbers line)
    (isLine : Markup.Directive.write Markup.lossesName
      (Json.writeObject (lossMembers (percentages analysis))) = line)
    {digits : Text} (cell : firstCell? analysis = some digits)
    (unusable : percentageOf? digits = none) :
    (percentages (line ++ '\n' :: analysis)).length ≤ 1 := by
  have silent : ∀ entry ∈ lossKeywords, entry.1 ≠ .thermalBridges →
      percentage? entry.2 (line ++ '\n' :: analysis) = none := by
    intro entry member others
    obtain ⟨single, folded⟩ := (keyword_eq_key entry member).resolve_left others
    have legal := isKeyword_of_mem entry member
    rw [single] at legal ⊢
    refine percentage?_append_eq_none numbers legal cell unusable ?_
    cases told : percentage? [entry.1.key] analysis with
    | none => exact .inl rfl
    | some value =>
        rw [← single] at told
        have isFound : (entry.1, value) ∈ percentages analysis :=
          List.mem_filterMap.mpr ⟨entry, member, by simp only [told, Option.map_some]⟩
        exact .inr ⟨_, folded, isLine ▸ key_infix_writeLosses isFound⟩
  have few : (percentages (line ++ '\n' :: analysis)).length ≤
      lossKeywords.countP fun entry => entry.1 = .thermalBridges := by
    rw [percentages, List.length_filterMap_eq_countP]
    refine List.countP_mono_left fun entry member told => ?_
    rw [decide_eq_true_eq]
    by_contra others
    simp [silent entry member others] at told
  exact few.trans (by decide)

theorem lossDirective?_append_line (found : lossDirective? analysis = some line) :
    lossDirective? (line ++ '\n' :: analysis) = none ↔
      ∃ digits, firstCell? analysis = some digits ∧ percentageOf? digits = none := by
  obtain ⟨enough, isLine⟩ := lossDirective?_eq_some_iff.mp found
  have nonempty : percentages analysis ≠ [] := by
    intro empty
    rw [empty] at enough
    contradiction
  have numbers : ListsNumbers line := isLine ▸ listsNumbers_writeLosses nonempty
  rw [lossDirective?_eq_none_iff]
  constructor
  · intro short
    by_contra noCell
    have usable : ∀ digits, firstCell? analysis = some digits → (percentageOf? digits).isSome := by
      intro digits cell
      by_contra unusable
      exact noCell ⟨digits, cell, by simpa using unusable⟩
    have more := length_percentages_le_append numbers usable
    omega
  · rintro ⟨digits, cell, unusable⟩
    exact Nat.lt_succ_of_le (length_percentages_append_le numbers isLine cell unusable)

/-- The analysis below a heading, with a line put in before it. -/
theorem analysisOf_append_line {rest : Text} (oneLine : '\n' ∉ line) :
    analysisOf (line ++ '\n' :: rest) =
      if "# ".toList <+: rest then line else line ++ '\n' :: analysisOf rest := by
  have mark : nextSection = '\n' :: "# ".toList := by decide
  have inLine : ∀ start < line.length, ¬ nextSection <+: (line ++ '\n' :: rest).drop start := by
    intro start within stands
    obtain ⟨c, more, isCons⟩ := List.exists_cons_of_length_pos (l := line.drop start)
      (by rw [List.length_drop]; omega)
    rw [List.drop_append_of_le_length (Nat.le_of_lt within), isCons, mark, List.cons_append,
      List.cons_prefix_cons] at stands
    have member : c ∈ line := List.mem_of_mem_drop (isCons ▸ List.mem_cons_self)
    exact oneLine (stands.1 ▸ member)
  split
  · rename_i ended
    obtain ⟨more, rfl⟩ := ended
    have cut : Text.cut? nextSection (line ++ '\n' :: ("# ".toList ++ more)) =
        some (line, more) := by
      refine Text.cut?_eq_some_iff.mpr ⟨?_, inLine⟩
      rw [mark, List.append_assoc, List.cons_append]
    rw [analysisOf, cut]
  · rename_i goesOn
    have nowhere : ∀ start ≤ line.length, ¬ nextSection <+: (line ++ '\n' :: rest).drop start := by
      intro start within
      by_cases inside : start < line.length
      · exact inLine start inside
      · have atEnd : start = line.length := by omega
        rw [atEnd, List.drop_left, mark, List.cons_prefix_cons]
        exact fun stands => goesOn stands.2
    rw [analysisOf, analysisOf, Text.cut?_append_cons nowhere]
    cases Text.cut? nextSection rest <;> simp

/-- A report that has the loss chart gets it again unless the next section follows its heading at
once, or the first cell of the analysis begins with digits that are no percentage. -/
theorem lossInsertion?_addLossChart (text : Text) :
    lossInsertion? (addLossChart text) = none ↔
      ∀ place, lossInsertion? text = some place → ∀ rest, place.rest = some rest →
        "# ".toList <+: rest ∨
          ∃ digits, firstCell? (analysisOf rest) = some digits ∧ percentageOf? digits = none := by
  cases found : lossInsertion? text with
  | none => simp [addLossChart_of_none found, found]
  | some place =>
      obtain ⟨_, fits⟩ := fits_of_lossInsertion found
      obtain ⟨before, rest, line, cut, isLine, rfl⟩ := lossInsertion?_eq_some_iff.mp found
      have again : Text.cut? lossHeading (addLossChart text) =
          some (before, line ++ '\n' :: rest) := by
        rw [← fits.result, ← Text.cut?_append cut, lossHeading_eq]
        simp [Insertion.result]
      have ended : lossDirective? line = none := by
        obtain ⟨_, written⟩ := lossDirective?_eq_some_iff.mp isLine
        rw [lossDirective?_eq_none_iff, percentages_eq_nil fits.line.barless
          (written ▸ (not_mem_writeLosses _).2)]
        decide
      have reading : lossInsertion? (addLossChart text) = none ↔
          lossDirective? (analysisOf (line ++ '\n' :: rest)) = none := by
        simp [lossInsertion?, again]
      rw [reading, analysisOf_append_line fits.line.oneLine]
      by_cases begins : "# ".toList <+: rest
      · rw [if_pos begins]
        refine iff_of_true ended ?_
        rintro _ ⟨rfl⟩ _ ⟨rfl⟩
        exact .inl begins
      · rw [if_neg begins, lossDirective?_append_line isLine]
        constructor
        · rintro unusable _ ⟨rfl⟩ _ ⟨rfl⟩
          exact .inr unusable
        · exact fun either => (either _ rfl rest rfl).resolve_left begins

end Injection

theorem Insertion.Fits.length_lt {place : Insertion} {text result : Text}
    {directive : Markup.Directive} (fits : place.Fits text result directive) :
    text.length < result.length := by
  rw [← fits.source, ← fits.result, Insertion.source_eq, Insertion.result_eq]
  simp only [List.length_append, List.length_cons]
  omega

namespace Step

variable {text result : Text} {place : Option Insertion}

theorem length_text_le (step : Step text result place) : text.length ≤ result.length := by
  cases step with
  | stays same => rw [same]
  | inserts fits => exact Nat.le_of_lt fits.length_lt

theorem length_le_iff (step : Step text result place) :
    result.length ≤ text.length ↔ place = none := by
  cases step with
  | stays same => simp [same]
  | inserts fits => simpa using fits.length_lt

end Step

/-- Directives are put into a report again, and change none of its sections. Nothing is put in
again exactly where the line of the label cuts all rows that tell the grade, and where the analysis
ends before it begins, or begins with a cell whose digits are no percentage. -/
theorem injectCharts_injectCharts_eq_iff (text : Text) :
    (Markup.Body.ofText (injectCharts (injectCharts text))).sections =
        (Markup.Body.ofText (injectCharts text)).sections ∧
      (injectCharts (injectCharts text) = injectCharts text ↔
        (∀ place, Injection.energyInsertion? text = some place → ∀ start, ∀ row : GradeRow,
          row.Direct → row.text <+: text.drop start → row.IsCut start place) ∧
        ∀ place, Injection.lossInsertion? (Injection.addEnergyLabel text) = some place →
          ∀ rest, place.rest = some rest →
            "# ".toList <+: rest ∨
              ∃ digits, Injection.firstCell? (Injection.analysisOf rest) = some digits ∧
                Injection.percentageOf? digits = none) := by
  have label := Step.addEnergyLabel (injectCharts text)
  have chart := Step.addLossChart (Injection.addEnergyLabel (injectCharts text))
  refine ⟨chart.sections_eq.trans label.sections_eq, ?_⟩
  rw [← Injection.energyInsertion?_injectCharts, ← Injection.lossInsertion?_addLossChart]
  constructor
  · intro same
    -- each pass can only add, so neither of them did
    have whole : (injectCharts (injectCharts text)).length ≤ (injectCharts text).length :=
      Nat.le_of_eq (congrArg List.length same)
    have unlabelled := label.length_le_iff.mp (chart.length_text_le.trans whole)
    refine ⟨unlabelled, ?_⟩
    rw [Injection.addEnergyLabel_of_none unlabelled] at chart
    refine chart.length_le_iff.mp ?_
    rwa [injectCharts, Injection.addEnergyLabel_of_none unlabelled] at whole
  · rintro ⟨unlabelled, uncharted⟩
    rw [injectCharts, Injection.addEnergyLabel_of_none unlabelled]
    exact Injection.addLossChart_of_none uncharted

theorem injectCharts_not_idempotent :
    ¬ ∀ text, injectCharts (injectCharts text) = injectCharts text := by
  intro idempotent
  have again := idempotent
    "# Votre score énergétique\n| Classe énergétique actuelle | D |\n".toList
  revert again
  decide +kernel

-- the label comes between two words of the only row, which is not found any more
example :
    let report := "# Votre score énergétique : classe\nénergétique actuelle | D |\n".toList
    injectCharts report ≠ report ∧ injectCharts (injectCharts report) = injectCharts report := by
  decide +kernel

end EnergyReport.Report
