import EnergyReport.Proofs.Report.Insertion
import EnergyReport.Proofs.Report.Phrase
import EnergyReport.Report.Summary

namespace EnergyReport.Report

/-! The rows that tell the energy grade, for the label and for the key figures.

The label wants the bar directly after the words; for the key figures anything but a bar may
stand between them. A line that is put into the text takes the letter from no row, unless it
comes into the words or between the bar and the letter, and it makes no new row. -/

/-- A row that tells the energy grade, up to its letter. -/
structure GradeRow where
  words : Text
  /-- What stands between the words and the bar. -/
  gap : Text
  blanks : Text
  letter : Char
  announces : Spells Injection.energyPhrase words
  barless : '|' ∉ gap
  blank : ∀ c ∈ blanks, Text.isBlank c
  isLetter : Chart.Grade.isLetter letter

namespace GradeRow

def cell (row : GradeRow) : Text :=
  '|' :: row.blanks ++ [row.letter]

def text (row : GradeRow) : Text :=
  row.words ++ row.gap ++ row.cell

/-- Only blanks stand before the bar. -/
def Direct (row : GradeRow) : Prop :=
  ∀ c ∈ row.gap, Text.isBlank c

end GradeRow

/-- The letter for the label of a row at the beginning of a text. -/
def directLetter? (text : Text) : Option Char := do
  let afterPhrase ← afterPhrase? Injection.energyPhrase text
  let cell ← afterDirectBar? afterPhrase
  Chart.Grade.leadingLetter? (Text.trimStart cell)

/-- The letter for the key figures of a row at the beginning of a text. -/
def announcedLetter? (text : Text) : Option Char := do
  let afterPhrase ← afterPhrase? Injection.energyPhrase text
  let cell ← afterBar? afterPhrase
  Chart.Grade.leadingLetter? (Text.trimStart cell)

theorem energyLetter?_eq (text : Text) :
    Injection.energyLetter? text = Text.firstMatch directLetter? text :=
  rfl

theorem energyGrade_ofText (text : Text) :
    (Summary.ofText text).energyGrade =
      (Text.firstMatch announcedLetter? text).map fun letter => [letter] := by
  rw [← Text.firstMatch_map]
  simp only [Summary.ofText, Summary.figure?, Summary.letter?, announcedLetter?, Option.map_bind,
    Option.bind_eq_bind, Function.comp_def]
  rfl

/-! ### Rows and their letters -/

variable {text : Text} {letter : Char}

theorem energyPhrase_ne_nil : Injection.energyPhrase ≠ [] := by
  decide

theorem isPhrase_energyPhrase : isPhrase Injection.energyPhrase := by
  decide

theorem directLetter?_eq_some_iff :
    directLetter? text = some letter ↔
      ∃ row : GradeRow, row.Direct ∧ row.letter = letter ∧ row.text <+: text := by
  simp only [directLetter?, Option.bind_eq_bind, Option.bind_eq_some_iff,
    afterPhrase?_eq_some_iff energyPhrase_ne_nil isPhrase_energyPhrase,
    afterDirectBar?_eq_some_iff, Chart.Grade.leadingLetter?_trimStart_eq_some_iff]
  constructor
  · rintro ⟨_, ⟨words, spelled, rfl⟩, _, ⟨gap, direct, rfl⟩, blanks, rest, blank, named, rfl⟩
    have barless : '|' ∉ gap := fun bar => absurd (direct _ bar) (by decide)
    exact ⟨⟨words, gap, blanks, letter, spelled, barless, blank, named⟩, direct, rfl, rest,
      by simp [GradeRow.text, GradeRow.cell]⟩
  · rintro ⟨row, direct, rfl, rest, rfl⟩
    refine ⟨_, ⟨row.words, row.announces, ?_⟩, _, ⟨row.gap, direct, rfl⟩, row.blanks, rest,
      row.blank, row.isLetter, rfl⟩
    simp [GradeRow.text, GradeRow.cell]

theorem announcedLetter?_eq_some_iff :
    announcedLetter? text = some letter ↔
      ∃ row : GradeRow, row.letter = letter ∧ row.text <+: text := by
  simp only [announcedLetter?, Option.bind_eq_bind, Option.bind_eq_some_iff,
    afterPhrase?_eq_some_iff energyPhrase_ne_nil isPhrase_energyPhrase,
    afterBar?_eq_some_iff, Chart.Grade.leadingLetter?_trimStart_eq_some_iff]
  constructor
  · rintro ⟨_, ⟨words, spelled, rfl⟩, _, ⟨gap, barless, rfl⟩, blanks, rest, blank, named, rfl⟩
    exact ⟨⟨words, gap, blanks, letter, spelled, barless, blank, named⟩, rfl, rest,
      by simp [GradeRow.text, GradeRow.cell]⟩
  · rintro ⟨row, rfl, rest, rfl⟩
    refine ⟨_, ⟨row.words, row.announces, ?_⟩, _, ⟨row.gap, row.barless, rfl⟩, row.blanks, rest,
      row.blank, row.isLetter, rfl⟩
    simp [GradeRow.text, GradeRow.cell]

/-! ### Lines that are put into a text -/

theorem length_le_of_prefix {part before : Text} (c : Char) (after : Text)
    (within : part <+: before ++ c :: after) (absent : c ∉ part) :
    part.length ≤ before.length := by
  by_contra longer
  have reaches : before ++ [c] <+: part := by
    refine List.prefix_of_prefix_length_le ?_ within ?_
    · exact ⟨after, by simp⟩
    · simp only [List.length_append, List.length_singleton]
      omega
  exact absent (reaches.subset (by simp))

theorem length_le_of_prefix_comment {part before : Text} (after : Text)
    (within : part <+: before ++ '\n' :: '<' :: after) (unmarked : '<' ∉ part)
    (ends : part.getLast? ≠ some '\n') : part.length ≤ before.length := by
  have atMost : part.length ≤ (before ++ ['\n']).length :=
    length_le_of_prefix '<' after (by simpa using within) unmarked
  by_contra longer
  have whole : part = before ++ ['\n'] := by
    have closed : before ++ ['\n'] <+: before ++ '\n' :: '<' :: after := ⟨'<' :: after, by simp⟩
    refine (List.prefix_of_prefix_length_le within closed atMost).eq_of_length ?_
    simp only [List.length_append, List.length_singleton] at atMost ⊢
    omega
  exact ends (by simp [whole])

namespace GradeRow

variable {row : GradeRow}

theorem not_mem_words {c : Char} (dark : Text.isBlank c = false)
    (absent : Injection.energyPhrase.all fun word => Text.foldCase c ∉ word) :
    c ∉ row.words := by
  intro member
  rcases row.announces.mem member with blank | ⟨word, among, letter⟩
  · simp [dark] at blank
  · simpa [letter] using List.all_eq_true.mp absent word among

theorem getLast?_words : row.words.getLast? ≠ some '\n' := by
  obtain ⟨before, c, same, word, among, last⟩ := row.announces.exists_getLast isPhrase_energyPhrase
  rw [same, List.getLast?_append, List.getLast?_singleton, Option.some_or]
  rintro ⟨rfl⟩
  have others : Injection.energyPhrase.all fun word =>
      word.getLast? != some (Text.foldCase '\n') := by
    decide
  simpa [last] using List.all_eq_true.mp others word among

theorem mem_cell {c : Char} (member : c ∈ row.cell) :
    c = '|' ∨ Text.isBlank c ∨ Chart.Grade.isLetter c := by
  simp only [cell, List.cons_append, List.mem_cons, List.mem_append, List.not_mem_nil,
    or_false] at member
  rcases member with rfl | inBlanks | rfl
  · exact .inl rfl
  · exact .inr (.inl (row.blank c inBlanks))
  · exact .inr (.inr row.isLetter)

theorem getLast?_cell : row.cell.getLast? ≠ some '\n' := by
  have named := row.isLetter
  rw [cell, List.getLast?_append, List.getLast?_singleton, Option.some_or]
  intro same
  rw [Option.some.inj same] at named
  contradiction

theorem text_eq (row : GradeRow) : row.text = row.words ++ (row.gap ++ row.cell) :=
  List.append_assoc row.words row.gap row.cell

theorem length_text (row : GradeRow) :
    row.text.length = row.words.length + row.gap.length + row.cell.length := by
  simp [text]
  omega

theorem text_prefix_iff {rest : Text} :
    row.text <+: row.words ++ rest ↔ row.gap ++ row.cell <+: rest := by
  rw [text_eq, List.prefix_append_right_inj]

def withGap (row : GradeRow) (gap : Text) (barless : '|' ∉ gap) : GradeRow :=
  { row with gap, barless }

theorem withGap_text_prefix_iff {gap rest : Text} {barless : '|' ∉ gap} :
    (row.withGap gap barless).text <+: row.words ++ rest ↔ gap ++ row.cell <+: rest :=
  text_prefix_iff

variable {before tail line : Text}

theorem words_prefix (stands : row.text <+: before ++ tail)
    (short : row.words.length ≤ before.length) : row.words <+: before := by
  rw [text_eq] at stands
  exact List.prefix_of_prefix_length_le ((List.prefix_append _ _).trans stands)
    (List.prefix_append before tail) short

/-- What is put behind a row, or between its words and its bar, leaves its letter. -/
theorem exists_of_insert (stands : row.text <+: before ++ tail) (barless : '|' ∉ line)
    (whole : row.text.length ≤ before.length ∨
      row.words.length ≤ before.length ∧
        before.length ≤ row.words.length + row.gap.length) :
    ∃ other : GradeRow, other.letter = row.letter ∧ other.text <+: before ++ line ++ tail := by
  rcases whole with behind | ⟨afterWords, beforeCell⟩
  · have inside : row.text <+: before :=
      List.prefix_of_prefix_length_le stands (List.prefix_append before tail) behind
    refine ⟨row, rfl, inside.trans ?_⟩
    rw [List.append_assoc]
    exact List.prefix_append before _
  · obtain ⟨first, rfl⟩ := words_prefix stands afterWords
    rw [List.append_assoc, text_prefix_iff] at stands
    have inGap : first <+: row.gap := by
      refine List.prefix_of_prefix_length_le (List.prefix_append first tail)
        ((List.prefix_append _ _).trans stands) ?_
      simp only [List.length_append] at beforeCell
      omega
    obtain ⟨second, parts⟩ := inGap
    have barlessGap : '|' ∉ first ++ second := parts ▸ row.barless
    have barlessParts : '|' ∉ first ++ line ++ second := by
      simp only [List.mem_append, not_or] at barlessGap ⊢
      exact ⟨⟨barlessGap.1, barless⟩, barlessGap.2⟩
    rw [← parts, List.append_assoc, List.prefix_append_right_inj] at stands
    refine ⟨row.withGap (first ++ line ++ second) barlessParts, rfl, ?_⟩
    rw [List.append_assoc row.words first, List.append_assoc row.words, withGap_text_prefix_iff,
      List.append_assoc (first ++ line), List.prefix_append_right_inj]
    exact stands

/-- A line without a bar that begins in the gap of a row ends there. -/
theorem line_prefix_gap (stands : row.gap ++ row.cell <+: before ++ (line ++ tail))
    (barless : '|' ∉ line) (reaches : before.length < row.gap.length) :
    before ++ line <+: row.gap := by
  have gap : row.gap <+: before ++ (line ++ tail) := (List.prefix_append _ _).trans stands
  have cut : before ++ line <+: before ++ (line ++ tail) := ⟨tail, by simp⟩
  refine List.prefix_of_prefix_length_le cut gap ?_
  by_contra shorter
  have bar : row.gap ++ ['|'] <+: before ++ line := by
    refine List.prefix_of_prefix_length_le (List.IsPrefix.trans ?_ stands) cut ?_
    · exact ⟨row.blanks ++ [row.letter], by simp [cell]⟩
    · simp only [List.length_append, List.length_singleton] at shorter ⊢
      omega
  obtain ⟨more, parts⟩ := List.prefix_of_prefix_length_le (List.prefix_append before _) gap
    (Nat.le_of_lt reaches)
  rw [← parts, List.append_assoc, List.prefix_append_right_inj] at bar
  exact barless (bar.subset (by simp))

/-- A comment line that is taken out of a text leaves the letter of a row that begins before
it. -/
theorem exists_of_delete {comment : Text} (isComment : line = '\n' :: '<' :: comment)
    (stands : row.text <+: before ++ line ++ tail) (barless : '|' ∉ line) :
    ∃ other : GradeRow, other.letter = row.letter ∧ other.text <+: before ++ tail := by
  rw [List.append_assoc] at stands
  have words : row.words <+: before := by
    refine words_prefix stands (length_le_of_prefix_comment (comment ++ tail) ?_
      (row.not_mem_words (by decide) (by decide)) row.getLast?_words)
    rw [text_eq, isComment] at stands
    exact (List.prefix_append _ _).trans stands
  obtain ⟨first, rfl⟩ := words
  rw [List.append_assoc, text_prefix_iff] at stands
  by_cases reaches : row.gap.length ≤ first.length
  · -- The gap ends before the line, and so does the cell.
    have gap : row.gap <+: first :=
      List.prefix_of_prefix_length_le ((List.prefix_append _ _).trans stands)
        (List.prefix_append first _) reaches
    obtain ⟨second, rfl⟩ := gap
    rw [List.append_assoc, List.prefix_append_right_inj] at stands
    have cell : row.cell <+: second := by
      refine List.prefix_of_prefix_length_le stands (List.prefix_append second _) ?_
      refine length_le_of_prefix_comment (comment ++ tail) ?_ ?_ row.getLast?_cell
      · simpa [isComment] using stands
      · intro member
        rcases row.mem_cell member with contra | contra | contra <;> revert contra <;> decide
    refine ⟨row, rfl, ?_⟩
    rw [List.append_assoc, text_prefix_iff, List.append_assoc, List.prefix_append_right_inj]
    exact cell.trans (List.prefix_append second tail)
  · -- The line lies in the gap.
    obtain ⟨second, parts⟩ := line_prefix_gap stands barless (Nat.lt_of_not_le reaches)
    have barlessGap : '|' ∉ first ++ line ++ second := parts ▸ row.barless
    have barlessParts : '|' ∉ first ++ second := by
      simp only [List.mem_append, not_or] at barlessGap ⊢
      exact ⟨barlessGap.1.1, barlessGap.2⟩
    rw [← parts, List.append_assoc, List.append_assoc, List.prefix_append_right_inj,
      List.prefix_append_right_inj] at stands
    refine ⟨row.withGap (first ++ second) barlessParts, rfl, ?_⟩
    rw [List.append_assoc row.words, withGap_text_prefix_iff, List.append_assoc first,
      List.prefix_append_right_inj]
    exact stands

theorem not_prefix_of_quiet {place after : Text} (quiet : Quiet line) (ends : place <:+ line) :
    ¬ row.text <+: place ++ '\n' :: after := by
  intro stands
  obtain ⟨taken, blank, rest, folded, isBlank, words⟩ := row.announces.exists_first (by decide)
  have short : taken.length ≤ place.length := by
    refine length_le_of_prefix '\n' after ?_ ?_
    · refine List.IsPrefix.trans ?_ stands
      rw [text_eq, words]
      exact ⟨blank :: rest ++ (row.gap ++ row.cell), by simp⟩
    · intro member
      have dark := Spells.dark_of_folded folded
        (isPhrase_cons isPhrase_energyPhrase).2.1 '\n' member
      contradiction
  have inLine : taken ++ [blank] <+: place ++ ['\n'] := by
    have lineEnd : place ++ ['\n'] <+: place ++ '\n' :: after := ⟨after, by simp⟩
    refine List.prefix_of_prefix_length_le (List.IsPrefix.trans ?_ stands) lineEnd ?_
    · rw [text_eq, words]
      exact ⟨rest ++ (row.gap ++ row.cell), by simp⟩
    · simpa using short
  obtain ⟨before, c, rfl, _, isE⟩ : ∃ before c, taken = before ++ [c] ∧
      before.map Text.foldCase = "class".toList ∧ Text.foldCase c = 'e' := by
    have split : "classe".toList = "class".toList ++ ['e'] := by decide
    rw [split, List.map_eq_append_iff] at folded
    obtain ⟨before, last, rfl, isBefore, isLast⟩ := folded
    obtain ⟨c, rfl, isE⟩ := List.map_eq_singleton_iff.mp isLast
    exact ⟨before, c, rfl, isBefore, isE⟩
  obtain ⟨more, inPlace⟩ := inLine
  obtain ⟨above, rfl⟩ := ends
  have adjacent : above ++ place ++ ['\n'] = above ++ before ++ c :: blank :: more := by
    rw [List.append_assoc, ← inPlace]
    simp
  have continues := List.isChain_iff_forall_rel_of_append_cons_cons.mp quiet adjacent isE
  rw [continues] at isBlank
  contradiction

theorem getLast?_text (row : GradeRow) : row.text.getLast? = row.cell.getLast? := by
  rw [text, List.getLast?_append_of_ne_nil]
  simp [cell]

/-- The end of the last line belongs to no row. -/
theorem prefix_of_prefix_append {ending : Text} (stands : row.text <+: before ++ ending)
    (among : ending = [] ∨ ending = ['\n']) : row.text <+: before := by
  rcases among with rfl | rfl
  · simpa using stands
  · rw [List.prefix_concat_iff] at stands
    rcases stands with whole | inside
    · have last := row.getLast?_cell
      rw [← getLast?_text, whole] at last
      simp at last
    · exact inside

end GradeRow

end EnergyReport.Report
