import EnergyReport.Proofs.Report.InsertedGrade
import EnergyReport.Proofs.Text.Search

namespace EnergyReport.Report

/-! Whether a report that has its directives gets the energy label again.

The label is put in for a row with the bar directly after its words. Such a row is still there
unless a line comes into it, and no line makes one. -/

namespace GradeRow

/-- A line comes into the row at `start`. -/
def IsCut (row : GradeRow) (start : Nat) (place : Insertion) : Prop :=
  start < place.upTo.length ∧ place.upTo.length < start + row.text.length

/-- What a blank in a row with a direct bar stands behind. -/
abbrev Spaced (c next : Char) : Prop :=
  Text.isBlank next → Text.isBlank c ∨ c = '|' ∨
    ∃ word ∈ Injection.energyPhrase, word.getLast? = some (Text.foldCase c)

variable {row : GradeRow} {start : Nat}

theorem Direct.isChain (direct : row.Direct) : row.text.IsChain Spaced := by
  have words : row.words.IsChain Spaced :=
    (row.announces.isChain isPhrase_energyPhrase).imp fun c next follows blank =>
      (follows blank).imp_right .inr
  have blanks {text : Text} (blank : ∀ c ∈ text, Text.isBlank c) : text.IsChain Spaced :=
    (List.pairwise_of_forall_mem_list fun c member _ _ _ => .inl (blank c member)).isChain
  have letter : Text.isBlank row.letter = false := Chart.Grade.isBlank_of_isLetter row.isLetter
  have cell : row.cell.IsChain Spaced := by
    rw [GradeRow.cell, List.cons_append, List.isChain_cons]
    refine ⟨fun next _ _ => .inr (.inl rfl), (blanks row.blank).append (.singleton _) ?_⟩
    intro c _ next isLetter isBlank
    cases isLetter
    simp [letter] at isBlank
  refine (words.append (blanks direct) ?_).append cell ?_
  · intro c last next _ _
    obtain ⟨before, other, same, ends⟩ := row.announces.exists_getLast isPhrase_energyPhrase
    rw [same, List.getLast?_append, List.getLast?_singleton, Option.some_or] at last
    cases last
    exact .inr (.inr ends)
  · intro c _ next first isBlank
    cases first
    contradiction

theorem Direct.unmarked (direct : row.Direct) : '<' ∉ row.text := by
  have words : '<' ∉ row.words := row.not_mem_words (by decide) (by decide)
  have gap : '<' ∉ row.gap := fun member => absurd (direct _ member) (by decide)
  have cell : '<' ∉ row.cell := by
    intro member
    rcases row.mem_cell member with contra | contra | contra <;> revert contra <;> decide
  simp [text, words, gap, cell]

/-- No such row goes on below a line that ends with s. -/
theorem Direct.not_isCut_of_ends {place : Insertion} {rest : Text} (direct : row.Direct)
    (before : Text) (stands : row.text <+: place.source.drop start)
    (ends : place.upTo = before ++ ['s']) (goesOn : place.rest = some rest) :
    ¬ row.IsCut start place := by
  rintro ⟨inside, reaches⟩
  have size : place.upTo.length = before.length + 1 := by simp [ends]
  have lineEnd : place.source.drop start = before.drop start ++ 's' :: '\n' :: rest := by
    rw [Insertion.drop_source_of_le (Nat.le_of_lt inside), ends,
      List.drop_append_of_le_length (by omega)]
    simp [Insertion.tail, goesOn]
  rw [lineEnd] at stands
  have closed : before.drop start ++ ['s', '\n'] <+: row.text := by
    refine List.prefix_of_prefix_length_le ⟨rest, by simp⟩ stands ?_
    simp only [List.length_append, List.length_drop, List.length_cons, List.length_nil]
    omega
  obtain ⟨more, parts⟩ := closed
  have adjacent : row.text = before.drop start ++ 's' :: '\n' :: more := by simp [← parts]
  rcases List.isChain_iff_forall_rel_of_append_cons_cons.mp direct.isChain adjacent (by decide) with
    blank | bar | ⟨word, among, last⟩
  · contradiction
  · contradiction
  · have others : Injection.energyPhrase.all fun word =>
        word.getLast? != some (Text.foldCase 's') := by
      decide
    simpa [last] using List.all_eq_true.mp others word among

end GradeRow

/-- A text tells its grade in a row with a direct bar. -/
def TellsDirectly (text : Text) : Prop :=
  ∃ start, ∃ row : GradeRow, row.Direct ∧ row.text <+: text.drop start

theorem energyLetter?_eq_none_iff {text : Text} :
    Injection.energyLetter? text = none ↔ ¬ TellsDirectly text := by
  rw [energyLetter?_eq, Text.firstMatch_eq_none_iff]
  constructor
  · rintro nowhere ⟨start, row, direct, stands⟩
    have told : directLetter? (text.drop start) = some row.letter :=
      directLetter?_eq_some_iff.mpr ⟨row, direct, rfl, stands⟩
    by_cases within : start < text.length
    · rw [nowhere start within] at told
      contradiction
    · rw [List.drop_eq_nil_of_le (Nat.le_of_not_lt within)] at told
      contradiction
  · intro silent start _
    rw [Option.eq_none_iff_forall_ne_some]
    intro letter told
    obtain ⟨row, direct, _, stands⟩ := directLetter?_eq_some_iff.mp told
    exact silent ⟨start, row, direct, stands⟩

namespace Insertion

variable {place : Insertion} {text result : Text} {directive : Markup.Directive}

/-- The result tells what the text tells in a row that is not cut. -/
theorem Fits.tellsDirectly_iff (fits : place.Fits text result directive) :
    TellsDirectly result ↔
      ∃ start, ∃ row : GradeRow, row.Direct ∧ row.text <+: text.drop start ∧
        ¬ row.IsCut start place := by
  constructor
  · rintro ⟨start, row, direct, stands⟩
    by_cases before : start ≤ place.upTo.length
    · -- the row ends before the line, which begins with a mark
      obtain ⟨comment, isComment⟩ := fits.exists_comment
      have inFront : row.text <+: place.upTo.drop start ++
          '\n' :: '<' :: (comment ++ place.tail ++ place.ending) := by
        rw [← fits.result, drop_result_of_le before, isComment] at stands
        simpa using stands
      have ends : row.text.getLast? ≠ some '\n' := row.getLast?_text ▸ row.getLast?_cell
      have short := length_le_of_prefix_comment _ inFront direct.unmarked ends
      have inAbove : row.text <+: place.upTo.drop start :=
        List.prefix_of_prefix_length_le inFront (List.prefix_append _ _) short
      refine ⟨start, row, direct, ?_, ?_⟩
      · rw [← fits.source, drop_source_of_le before]
        exact inAbove.trans (List.prefix_append _ _)
      · rintro ⟨_, reaches⟩
        rw [List.length_drop] at short
        omega
    · obtain ⟨after, rfl⟩ : ∃ after, start = place.upTo.length + (after + 1) :=
        ⟨start - place.upTo.length - 1, by omega⟩
      obtain ⟨_, inText⟩ := fits.prefix_source_of_behind stands
      refine ⟨_, row, direct, inText, ?_⟩
      rintro ⟨inside, _⟩
      omega
  · rintro ⟨start, row, direct, stands, whole⟩
    by_cases before : start < place.upTo.length
    · have short : row.text.length ≤ (place.upTo.drop start).length := by
        rw [List.length_drop]
        by_contra longer
        exact whole ⟨before, by omega⟩
      rw [← fits.source, drop_source_of_le (Nat.le_of_lt before)] at stands
      have inAbove : row.text <+: place.upTo.drop start :=
        List.prefix_of_prefix_length_le stands (List.prefix_append _ _) short
      refine ⟨start, row, direct, ?_⟩
      rw [← fits.result, drop_result_of_le (Nat.le_of_lt before), List.append_assoc,
        List.append_assoc]
      exact inAbove.trans (List.prefix_append _ _)
    · obtain ⟨after, rfl⟩ := Nat.exists_eq_add_of_le (Nat.le_of_not_lt before)
      exact ⟨_, row, direct, fits.prefix_result_of_behind stands⟩

/-- What is no part of the line is in the result where it is in the text. -/
theorem Fits.infix_iff (fits : place.Fits text result directive) {needle : Text}
    (oneLine : '\n' ∉ needle) (absent : ¬ needle <:+: place.line) :
    needle <:+: result ↔ needle <:+: text := by
  have nonempty : needle ≠ [] := by
    rintro rfl
    exact absent List.nil_infix
  rw [← fits.source, ← fits.result]
  cases rest : place.rest with
  | none =>
      simp [Insertion.source, Insertion.result, rest, Text.infix_append_cons_iff oneLine, absent,
        nonempty]
  | some more =>
      simp [Insertion.source, Insertion.result, rest, Text.infix_append_cons_iff oneLine, absent]

end Insertion

namespace Injection

variable {text : Text} {place : Insertion}

theorem energyInsertion?_eq_none_iff :
    energyInsertion? text = none ↔ ¬ (TellsDirectly text ∧ scoreHeading <:+: text) := by
  have parts : energyInsertion? text = none ↔
      energyLetter? text = none ∨ Text.cut? scoreHeading text = none := by
    unfold energyInsertion? energyDirective?
    cases energyLetter? text <;> cases Text.cut? scoreHeading text <;> simp
  rw [parts, energyLetter?_eq_none_iff, Text.cut?_eq_none_iff, not_and_or]

theorem scoreHeading_infix_of_energyInsertion (found : energyInsertion? text = some place) :
    scoreHeading <:+: place.upTo := by
  unfold energyInsertion? at found
  split at found
  · rename_i before after _ _
    cases found
    exact ⟨before, after.takeWhile (· ≠ '\n'), rfl⟩
  · contradiction

theorem energyInsertion?_addLossChart :
    energyInsertion? (addLossChart text) = none ↔ energyInsertion? text = none := by
  cases found : lossInsertion? text with
  | none => rw [addLossChart_of_none found]
  | some place =>
      obtain ⟨_, fits⟩ := fits_of_lossInsertion found
      obtain ⟨before, rest, ends, goesOn⟩ := exists_upTo_of_lossInsertion found
      obtain ⟨_, _, _, _, directive, isPlace⟩ := lossInsertion?_eq_some_iff.mp found
      obtain ⟨_, isLine⟩ := lossDirective?_eq_some_iff.mp directive
      have heading : '#' ∈ scoreHeading := by decide
      have unmarked : ¬ scoreHeading <:+: place.line := by
        rw [isPlace, ← isLine]
        exact fun inLine => (not_mem_writeLosses _).1 (inLine.subset heading)
      have rows : TellsDirectly (addLossChart text) ↔ TellsDirectly text := by
        rw [fits.tellsDirectly_iff]
        constructor
        · rintro ⟨start, row, direct, stands, _⟩
          exact ⟨start, row, direct, stands⟩
        · rintro ⟨start, row, direct, stands⟩
          refine ⟨start, row, direct, stands, ?_⟩
          exact direct.not_isCut_of_ends before (fits.source ▸ stands) ends goesOn
      rw [energyInsertion?_eq_none_iff, energyInsertion?_eq_none_iff, rows,
        fits.infix_iff (by decide) unmarked]

/-- A report with its directives gets the label again unless the label's line cuts every row that
tells the grade. -/
theorem energyInsertion?_injectCharts (text : Text) :
    energyInsertion? (injectCharts text) = none ↔
      ∀ place, energyInsertion? text = some place → ∀ start, ∀ row : GradeRow, row.Direct →
        row.text <+: text.drop start → row.IsCut start place := by
  rw [injectCharts, energyInsertion?_addLossChart]
  cases found : energyInsertion? text with
  | none => simp [addEnergyLabel_of_none found, found]
  | some place =>
      obtain ⟨_, fits⟩ := fits_of_energyInsertion found
      have heading : scoreHeading <:+: addEnergyLabel text := by
        rw [← fits.result, Insertion.result_eq, List.append_assoc]
        exact (scoreHeading_infix_of_energyInsertion found).trans (List.prefix_append _ _).isInfix
      rw [energyInsertion?_eq_none_iff, fits.tellsDirectly_iff]
      constructor
      · rintro silent _ ⟨rfl⟩ start row direct stands
        by_contra whole
        exact silent ⟨⟨start, row, direct, stands, whole⟩, heading⟩
      · rintro cut ⟨⟨start, row, direct, stands, whole⟩, _⟩
        exact whole (cut place rfl start row direct stands)

end Injection

end EnergyReport.Report
