import EnergyReport.Proofs.Report.Cell
import EnergyReport.Proofs.Report.InsertedGrade
import EnergyReport.Text.Alphabetic

namespace EnergyReport.Report

/-! The letters that are taken for grades.

A grade is the first letter of a cell. Nothing is looked at behind it, so the first letter of a
longer word is taken as well. -/

open Chart.Grade (leadingLetter?_trimStart_eq_some_iff)

def letterIn (cell : Text) : Option Char :=
  Chart.Grade.leadingLetter? (Text.trimStart cell)

theorem readsFrom_letterIn {blanks : Text} {letter : Char} (blank : ∀ c ∈ blanks, Text.isBlank c)
    (isLetter : Chart.Grade.isLetter letter) :
    CellSearch.ReadsFrom letterIn (blanks ++ [letter]) letter where
  barless := by
    intro member
    rw [List.mem_append, List.mem_singleton] at member
    cases member with
    | inl inBlanks => exact absurd (blank '|' inBlanks) (by decide)
    | inr same =>
        rw [← same] at isLetter
        contradiction
  reads := by
    intro rest
    apply leadingLetter?_trimStart_eq_some_iff.mpr
    exact ⟨blanks, rest, blank, isLetter, by simp⟩

theorem isLocal_letterIn : CellSearch.IsLocal letterIn := by
  intro cell letter found
  obtain ⟨blanks, rest, blank, isLetter, rfl⟩ := leadingLetter?_trimStart_eq_some_iff.mp found
  exact ⟨blanks ++ [letter], rest, by simp, readsFrom_letterIn blank isLetter⟩

/-- A letter that a search takes for a grade, with the text before it and behind it. -/
structure IsTaken (search : CellSearch) (text upTo : Text) (letter : Char) (rest : Text) :
    Prop where
  parts : text = upTo ++ letter :: rest
  isLetter : Chart.Grade.isLetter letter
  inCell : ∃ before blanks, upTo = before ++ '|' :: blanks ∧ (∀ c ∈ blanks, Text.isBlank c) ∧
    search.IsFirst letterIn text before (blanks ++ letter :: rest)

variable {search : CellSearch} {text : Text} {letter : Char}

theorem find?_letterIn_eq_some_iff :
    search.find? letterIn text = some letter ↔
      ∃ upTo rest, IsTaken search text upTo letter rest := by
  rw [CellSearch.find?_eq_some_iff]
  constructor
  · intro found
    obtain ⟨before, cell, isFirst, isRead⟩ := found
    obtain ⟨blanks, rest, blank, isLetter, rfl⟩ := leadingLetter?_trimStart_eq_some_iff.mp isRead
    refine ⟨before ++ '|' :: blanks, rest, ?_, isLetter, before, blanks, rfl, blank, isFirst⟩
    simp [isFirst.parts]
  · intro found
    obtain ⟨upTo, rest, _, isLetter, before, blanks, rfl, blank, isFirst⟩ := found
    refine ⟨before, _, isFirst, leadingLetter?_trimStart_eq_some_iff.mpr ?_⟩
    exact ⟨blanks, rest, blank, isLetter, rfl⟩

/-- A letter is taken whatever follows it. -/
theorem IsTaken.of_append {upTo rest : Text} (taken : IsTaken search text upTo letter rest)
    (following : Text) : IsTaken search (upTo ++ letter :: following) upTo letter following := by
  obtain ⟨_, isLetter, before, blanks, rfl, blank, isFirst⟩ := taken
  have reads := readsFrom_letterIn blank isLetter
  have whole (tail : Text) : blanks ++ letter :: tail = blanks ++ [letter] ++ tail := by simp
  rw [whole] at isFirst
  refine ⟨rfl, isLetter, before, blanks, rfl, blank, ?_⟩
  have same := isFirst.of_append isLocal_letterIn reads following
  rw [← whole] at same
  simpa using same

/-! ### The three searches -/

/-- The cell of the energy grade for the label. -/
def energyCell : CellSearch := .directlyBehind Injection.energyPhrase (by decide)

/-- The cell of the emissions grade for the label. -/
def emissionsCell : CellSearch := .behind Injection.emissionsPhrase (by decide)

/-- The cell of the energy grade for the key figures. -/
def energyFigureCell : CellSearch := .behind Injection.energyPhrase (by decide)

theorem energyLetter?_eq_find (text : Text) :
    Injection.energyLetter? text = energyCell.find? letterIn text := by
  simp only [Injection.energyLetter?, CellSearch.find?, energyCell, CellSearch.directlyBehind,
    CellSearch.afterGap, Option.bind_assoc]
  rfl

theorem emissionsLetter?_eq_find (text : Text) :
    Injection.emissionsLetter? text = emissionsCell.find? letterIn text := by
  simp only [Injection.emissionsLetter?, CellSearch.find?, emissionsCell, CellSearch.behind,
    CellSearch.afterGap, Option.bind_assoc]
  rfl

theorem energyGrade_eq_find (text : Text) :
    (Summary.ofText text).energyGrade =
      (energyFigureCell.find? letterIn text).map fun letter => [letter] := by
  rw [energyGrade_ofText]
  simp only [CellSearch.find?, energyFigureCell, CellSearch.behind, CellSearch.afterGap,
    Option.bind_assoc]
  rfl

/-- The grades of the label and of the key figures are the letters behind the bar of the first cell
that begins with one. Each of them is taken whatever follows it, another letter or not. -/
theorem letters_taken_whatever_follows (text : Text) :
    (∀ line, Injection.energyDirective? text = some line ↔
      ∃ letter upTo rest, IsTaken energyCell text upTo letter rest ∧
        Markup.Directive.write Markup.energyLabelName
          (Json.writeObject
            (Injection.gradeMembers letter (Injection.emissionsLetter? text))) = line) ∧
    (∀ letter, Injection.emissionsLetter? text = some letter ↔
      ∃ upTo rest, IsTaken emissionsCell text upTo letter rest) ∧
    (∀ grade, (Summary.ofText text).energyGrade = some grade ↔
      ∃ letter upTo rest, IsTaken energyFigureCell text upTo letter rest ∧ [letter] = grade) ∧
    ∀ search upTo letter rest, IsTaken search text upTo letter rest →
      ∀ following, IsTaken search (upTo ++ letter :: following) upTo letter following := by
  refine ⟨fun line => ?_, fun letter => ?_, fun grade => ?_, ?_⟩
  · simp only [Injection.energyDirective?_eq_some_iff, energyLetter?_eq_find,
      find?_letterIn_eq_some_iff, exists_and_right]
  · rw [emissionsLetter?_eq_find, find?_letterIn_eq_some_iff]
  · simp only [energyGrade_eq_find, Option.map_eq_some_iff, find?_letterIn_eq_some_iff,
      exists_and_right]
  · intro search upTo letter rest taken following
    exact taken.of_append following

/-- A report whose cell for the grade holds a word. -/
def praisedReport : Text :=
  "# Votre score énergétique\n| Classe énergétique actuelle | Excellente |\n".toList

/-- The label of such a report shows the first letter of that word. -/
theorem not_letters_are_words :
    ¬ ∀ text upTo letter rest, Injection.addEnergyLabel text ≠ text →
      IsTaken energyCell text upTo letter rest →
        ∀ c ∈ rest.head?, Text.isAlphabetic c = false := by
  intro words
  have labelled : Injection.addEnergyLabel praisedReport ≠ praisedReport := by decide +kernel
  have found : Injection.energyLetter? praisedReport = some 'E' := by decide +kernel
  rw [energyLetter?_eq_find, find?_letterIn_eq_some_iff] at found
  obtain ⟨upTo, rest, taken⟩ := found
  have isWord := words praisedReport upTo 'E' rest labelled taken
  obtain ⟨front, back, split, single⟩ : ∃ front back : Text,
      praisedReport = front ++ 'E' :: back ∧ 'E' ∉ front ∧ 'E' ∉ back ∧ back.head? = some 'x' :=
    ⟨"# Votre score énergétique\n| Classe énergétique actuelle | ".toList, "xcellente |\n".toList,
      by decide +kernel⟩
  rcases Text.append_cons_eq_append_cons (taken.parts ▸ split) with
    ⟨_, same⟩ | ⟨middle, before, _⟩ | ⟨middle, _, behind⟩
  · rw [same] at isWord
    have letter := isWord 'x' single.2.2
    revert letter
    decide +kernel
  · exact single.1 (by simp [before])
  · exact single.2.1 (by simp [behind])

end EnergyReport.Report
