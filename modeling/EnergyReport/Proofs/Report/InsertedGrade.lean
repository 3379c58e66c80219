import EnergyReport.Proofs.Report.GradeRow

namespace EnergyReport.Report

/-! The grade of the label that is put into a report, and the grade of its key figures.

The two are looked for by different rows. A row with more than blanks before its bar tells a
grade for the key figures only, so a report can tell two grades. -/

namespace GradeRow

/-- The first row with the bar directly after its words: the one that the label takes its grade
from. -/
structure IsRead (row : GradeRow) (start : Nat) (text : Text) : Prop where
  stands : row.text <+: text.drop start
  direct : row.Direct
  first : ∀ earlier < start, directLetter? (text.drop earlier) = none

/-- A line comes into the words of the row at `start`, or between its bar and its letter. -/
def IsTorn (row : GradeRow) (start : Nat) (place : Insertion) : Prop :=
  (start < place.upTo.length ∧ place.upTo.length < start + row.words.length) ∨
    (start + row.words.length + row.gap.length < place.upTo.length ∧
      place.upTo.length < start + row.text.length)

variable {row : GradeRow} {start : Nat} {text : Text}

theorem announcedLetter?_of_stands (stands : row.text <+: text.drop start) :
    announcedLetter? (text.drop start) = some row.letter :=
  announcedLetter?_eq_some_iff.mpr ⟨row, rfl, stands⟩

end GradeRow

theorem lt_length_of_announcedLetter {text : Text} {start : Nat} {letter : Char}
    (found : announcedLetter? (text.drop start) = some letter) : start < text.length := by
  by_contra beyond
  rw [List.drop_eq_nil_of_le (Nat.le_of_not_lt beyond)] at found
  contradiction

namespace Insertion

/-- The place of a text that a place of the result comes from. -/
def origin (place : Insertion) (start : Nat) : Nat :=
  if start ≤ place.upTo.length then start
  else max place.upTo.length (start - (place.line.length + 1))

theorem origin_mono (place : Insertion) {start later : Nat} (le : start ≤ later) :
    place.origin start ≤ place.origin later := by
  unfold origin
  split <;> split <;> omega

variable {place : Insertion} {text result : Text} {directive : Markup.Directive}

theorem drop_source_of_le {start : Nat} (before : start ≤ place.upTo.length) :
    place.source.drop start = place.upTo.drop start ++ place.tail := by
  rw [source_eq, List.drop_append_of_le_length before]

theorem drop_source_add (place : Insertion) (start : Nat) :
    place.source.drop (place.upTo.length + start) = place.tail.drop start := by
  rw [source_eq, List.drop_append, List.drop_eq_nil_of_le (Nat.le_add_right _ _),
    Nat.add_sub_cancel_left, List.nil_append]

theorem drop_result_of_le {start : Nat} (before : start ≤ place.upTo.length) :
    place.result.drop start =
      place.upTo.drop start ++ '\n' :: place.line ++ place.tail ++ place.ending := by
  rw [result_eq, List.append_assoc, List.drop_append_of_le_length before]
  simp

theorem drop_result_add (place : Insertion) (start : Nat) :
    place.result.drop (place.upTo.length + (start + 1)) =
      place.line.drop start ++ (place.tail ++ place.ending).drop (start - place.line.length) := by
  rw [result_eq, List.append_assoc, List.drop_append,
    List.drop_eq_nil_of_le (Nat.le_add_right _ _), Nat.add_sub_cancel_left, List.nil_append,
    List.cons_append, List.drop_succ_cons, List.drop_append]

theorem Fits.exists_comment (fits : place.Fits text result directive) :
    ∃ comment, '\n' :: place.line = '\n' :: '<' :: comment := by
  obtain ⟨rest, begins⟩ := Markup.Directive.exists_comment_of_ofLine fits.line.read
  exact ⟨_, congrArg (List.cons '\n') begins⟩

theorem Fits.barless (fits : place.Fits text result directive) : '|' ∉ '\n' :: place.line := by
  simp [fits.line.barless]

/-- No row begins in the line, and a row behind it was in the text. -/
theorem Fits.prefix_source_of_behind (fits : place.Fits text result directive) {row : GradeRow}
    {after : Nat} (stands : row.text <+: result.drop (place.upTo.length + (after + 1))) :
    place.line.length ≤ after ∧
      row.text <+: text.drop (place.upTo.length + (after - place.line.length)) := by
  rw [← fits.result, drop_result_add] at stands
  have behind : place.line.length ≤ after := by
    by_contra within
    obtain ⟨rest, lineEnd⟩ := place.exists_tail_append_ending
    rw [Nat.sub_eq_zero_of_le (by omega), List.drop_zero, lineEnd] at stands
    exact row.not_prefix_of_quiet fits.line.quiet (List.drop_suffix _ _) stands
  refine ⟨behind, ?_⟩
  rw [← fits.source, drop_source_add]
  rw [List.drop_eq_nil_of_le behind, List.nil_append, List.drop_append] at stands
  refine row.prefix_of_prefix_append stands ?_
  rcases place.ending_eq with none | newline
  · exact .inl (by simp [none])
  · rw [newline]
    cases after - place.line.length - place.tail.length with
    | zero => exact .inr rfl
    | succ more => exact .inl (by simp)

/-- A row behind the line above is in the result. -/
theorem Fits.prefix_result_of_behind (fits : place.Fits text result directive) {row : GradeRow}
    {after : Nat} (stands : row.text <+: text.drop (place.upTo.length + after)) :
    row.text <+: result.drop (place.upTo.length + (after + place.line.length + 1)) := by
  rw [← fits.source, drop_source_add] at stands
  rw [← fits.result, drop_result_add, List.drop_eq_nil_of_le (Nat.le_add_left _ _),
    Nat.add_sub_cancel, List.nil_append, List.drop_append]
  exact stands.trans (List.prefix_append _ _)

/-- Every row of the result is in the text that it came from, with the same letter. -/
theorem Fits.announced_of_result (fits : place.Fits text result directive) {start : Nat}
    {letter : Char} (found : announcedLetter? (result.drop start) = some letter) :
    announcedLetter? (text.drop (place.origin start)) = some letter := by
  obtain ⟨row, rfl, stands⟩ := announcedLetter?_eq_some_iff.mp found
  by_cases before : start ≤ place.upTo.length
  · rw [← fits.source, origin, if_pos before, drop_source_of_le before]
    rw [← fits.result, drop_result_of_le before] at stands
    obtain ⟨comment, isComment⟩ := fits.exists_comment
    have inTail := row.prefix_of_prefix_append stands place.ending_eq
    obtain ⟨other, same, stands⟩ := GradeRow.exists_of_delete isComment inTail fits.barless
    exact announcedLetter?_eq_some_iff.mpr ⟨other, same, stands⟩
  · obtain ⟨after, rfl⟩ : ∃ after, start = place.upTo.length + (after + 1) :=
      ⟨start - place.upTo.length - 1, by omega⟩
    obtain ⟨behind, inText⟩ := fits.prefix_source_of_behind stands
    have isOrigin : place.origin (place.upTo.length + (after + 1)) =
        place.upTo.length + (after - place.line.length) := by
      rw [origin, if_neg before]
      omega
    rw [isOrigin]
    exact announcedLetter?_eq_some_iff.mpr ⟨row, rfl, inText⟩

/-- A row that is not torn is in the result, with its letter. -/
theorem Fits.announced_of_source (fits : place.Fits text result directive) {row : GradeRow}
    {start : Nat} (stands : row.text <+: text.drop start) (whole : ¬ row.IsTorn start place) :
    ∃ later, place.origin later = start ∧
      announcedLetter? (result.drop later) = some row.letter := by
  by_cases before : start < place.upTo.length
  · refine ⟨start, if_pos (Nat.le_of_lt before), ?_⟩
    rw [← fits.source, drop_source_of_le (Nat.le_of_lt before)] at stands
    rw [← fits.result, drop_result_of_le (Nat.le_of_lt before)]
    have length := row.length_text
    have reaches : row.text.length ≤ (place.upTo.drop start).length ∨
        row.words.length ≤ (place.upTo.drop start).length ∧
          (place.upTo.drop start).length ≤ row.words.length + row.gap.length := by
      simp only [GradeRow.IsTorn, not_or, not_and, Nat.not_lt] at whole
      have afterWords := whole.1 before
      have beforeCell := whole.2
      rw [List.length_drop]
      omega
    obtain ⟨other, same, stands⟩ := GradeRow.exists_of_insert stands fits.barless reaches
    refine announcedLetter?_eq_some_iff.mpr ⟨other, same, stands.trans ?_⟩
    exact List.prefix_append _ _
  · obtain ⟨after, rfl⟩ := Nat.exists_eq_add_of_le (Nat.le_of_not_lt before)
    refine ⟨place.upTo.length + (after + place.line.length + 1), ?_, ?_⟩
    · rw [origin, if_neg (by omega)]
      omega
    · exact announcedLetter?_eq_some_iff.mpr ⟨row, rfl, fits.prefix_result_of_behind stands⟩

end Insertion

namespace GradeRow

variable {row : GradeRow} {start : Nat} {text : Text}

/-- No word of the phrase ends with s. -/
theorem not_words_of_ends {before : Text} : ¬ before ++ ['s'] ++ ['\n'] <+: row.words := by
  rintro ⟨more, words⟩
  have adjacent : row.words = before ++ 's' :: '\n' :: more := by
    rw [← words]
    simp
  have chain := row.announces.isChain isPhrase_energyPhrase
  rcases List.isChain_iff_forall_rel_of_append_cons_cons.mp chain adjacent (by decide) with
    blank | ⟨word, among, last⟩
  · contradiction
  · have others : Injection.energyPhrase.all fun word =>
        word.getLast? != some (Text.foldCase 's') := by
      decide
    simpa [last] using List.all_eq_true.mp others word among

/-- No s stands between the bar of a row and its letter. -/
theorem not_cell_of_ends {before : Text} (inside : before ++ ['s'] <+: row.text)
    (behind : row.words.length + row.gap.length ≤ before.length) : False := by
  have fills : row.words ++ row.gap <+: before ++ ['s'] := by
    refine List.prefix_of_prefix_length_le (List.prefix_append _ row.cell) inside ?_
    simp only [List.length_append]
    omega
  obtain ⟨part, split⟩ := fills
  have inCell : part <+: row.cell := by
    rwa [← split, text, List.prefix_append_right_inj] at inside
  have nonempty : part ≠ [] := by
    rintro rfl
    have same := congrArg List.length split
    simp only [List.append_nil, List.length_append, List.length_singleton] at same
    omega
  have last : 's' ∈ part := by
    have isLast := congrArg List.getLast? split
    rw [List.getLast?_append_of_ne_nil _ nonempty, List.getLast?_append,
      List.getLast?_singleton, Option.some_or] at isLast
    exact List.mem_of_getLast? isLast
  rcases row.mem_cell (inCell.subset last) with contra | contra | contra <;>
    revert contra <;> decide

/-- No row is torn below a line that ends with s, as the title of the loss analysis does. -/
theorem not_isTorn_of_ends {place : Insertion} {rest : Text} (before : Text)
    (stands : row.text <+: place.source.drop start) (ends : place.upTo = before ++ ['s'])
    (goesOn : place.rest = some rest) : ¬ row.IsTorn start place := by
  intro torn
  have length := row.length_text
  have size : place.upTo.length = before.length + 1 := by simp [ends]
  have reached : start ≤ before.length := by
    rcases torn with inWords | inCell <;> omega
  have lineEnd : place.upTo.drop start = before.drop start ++ ['s'] := by
    rw [ends, List.drop_append_of_le_length reached]
  have rowStands : row.text <+: before.drop start ++ ['s'] ++ '\n' :: rest := by
    rw [Insertion.drop_source_of_le (by omega), lineEnd] at stands
    simpa [Insertion.tail, goesOn] using stands
  have left : (before.drop start).length = before.length - start := List.length_drop
  rcases torn with inWords | inCell
  · have closed : before.drop start ++ ['s'] ++ ['\n'] <+:
        before.drop start ++ ['s'] ++ '\n' :: rest :=
      ⟨rest, by simp⟩
    rw [text_eq] at rowStands
    refine row.not_words_of_ends
      (List.prefix_of_prefix_length_le closed ((List.prefix_append _ _).trans rowStands) ?_)
    simp only [List.length_append, List.length_singleton]
    omega
  · refine row.not_cell_of_ends
      (List.prefix_of_prefix_length_le (List.prefix_append _ _) rowStands ?_) ?_
    · simp only [List.length_append, List.length_singleton]
      omega
    · omega

end GradeRow

/-- The energy grade that the payload of an inserted line tells. -/
def Insertion.grade? (place : Insertion) : Option Text := do
  let directive ← Markup.Directive.ofLine? place.line
  let payload ← Json.read directive.payload
  let value ← payload.member? Chart.energyKey
  value.text?

namespace Injection

theorem exists_gradeValue_eq {letter : Char} (isLetter : Chart.Grade.isLetter letter) :
    ∃ grade : Chart.Grade, letter.toUpper = grade.letter ∧
      gradeValue letter = .text [grade.letter] := by
  obtain ⟨grade, capital⟩ := Chart.Grade.exists_of_isLetter isLetter
  exact ⟨grade, capital, by rw [gradeValue, capital]⟩

/-- The payload of the energy label tells the grade that it was written with. -/
theorem read_gradeMembers {energy : Char} {emissions : Option Char}
    (isLetter : Chart.Grade.isLetter energy)
    (areLetters : ∀ letter ∈ emissions, Chart.Grade.isLetter letter) :
    ((Json.read (Json.writeObject (gradeMembers energy emissions))).bind
      (Json.member? Chart.energyKey)).bind Json.text? = some [energy.toUpper] := by
  have checked : ∀ grade ∈ Chart.Grade.all,
      ∀ more ∈ [] :: Chart.Grade.all.map fun other => [(Chart.emissionsKey, .text [other.letter])],
        ((Json.read (Json.writeObject ((Chart.energyKey, .text [grade.letter]) :: more))).bind
          (Json.member? Chart.energyKey)).bind Json.text? = some [grade.letter] := by
    decide +kernel
  have listed (grade : Chart.Grade) : grade ∈ Chart.Grade.all := by
    cases grade <;> decide
  obtain ⟨grade, capital, value⟩ := exists_gradeValue_eq isLetter
  rw [capital]
  cases emissions with
  | none =>
      rw [gradeMembers, value]
      exact checked grade (listed grade) [] (by simp)
  | some letter =>
      obtain ⟨other, _, otherValue⟩ := exists_gradeValue_eq (areLetters letter rfl)
      rw [gradeMembers, value, otherValue]
      exact checked grade (listed grade) _
        (List.mem_cons_of_mem _ (List.mem_map_of_mem (listed other)))

theorem grade_of_energyInsertion {text : Text} {place : Insertion}
    (found : energyInsertion? text = some place) :
    ∃ letter, energyLetter? text = some letter ∧ place.grade? = some [letter.toUpper] := by
  unfold energyInsertion? at found
  split at found
  · rename_i line _ _ isDirective _
    cases found
    obtain ⟨letter, energy, isLine⟩ := isDirectiveLine_of_energyDirective isDirective
    refine ⟨letter, energy, ?_⟩
    have told := read_gradeMembers (isLetter_of_energyLetter energy)
      fun letter (emissions : emissionsLetter? text = some letter) =>
        isLetter_of_emissionsLetter emissions
    simp only [Insertion.grade?, isLine.read, Option.bind_eq_bind, Option.bind_some]
    rwa [Option.bind_assoc] at told
  · contradiction

theorem not_isTorn_of_lossInsertion {text : Text} {place : Insertion} {row : GradeRow}
    {start : Nat} (found : lossInsertion? text = some place)
    (stands : row.text <+: text.drop start) : ¬ row.IsTorn start place := by
  obtain ⟨_, fits⟩ := fits_of_lossInsertion found
  rw [← fits.source] at stands
  obtain ⟨before, _, ends, goesOn⟩ := exists_upTo_of_lossInsertion found
  exact GradeRow.not_isTorn_of_ends before stands ends goesOn

end Injection

/-- Where the rows of a text come from: places in another text, in the same order. -/
structure Traces (result text : Text) (origin : Nat → Nat) : Prop where
  mono : ∀ {start later : Nat}, start ≤ later → origin start ≤ origin later
  back : ∀ {start : Nat} {letter : Char}, announcedLetter? (result.drop start) = some letter →
    announcedLetter? (text.drop (origin start)) = some letter

/-- The text with the loss chart has all rows of the text without it, and no other. -/
theorem exists_traces_addLossChart (text : Text) :
    ∃ origin, Traces (Injection.addLossChart text) text origin ∧
      ∀ start letter, announcedLetter? (text.drop start) = some letter →
        ∃ later, origin later = start ∧
          announcedLetter? ((Injection.addLossChart text).drop later) = some letter := by
  cases found : Injection.lossInsertion? text with
  | none =>
      rw [Injection.addLossChart_of_none found]
      exact ⟨id, ⟨fun le => le, fun told => told⟩, fun start _ told => ⟨start, rfl, told⟩⟩
  | some place =>
      obtain ⟨directive, fits⟩ := Injection.fits_of_lossInsertion found
      refine ⟨place.origin, ⟨place.origin_mono, fits.announced_of_result⟩, ?_⟩
      intro start letter told
      obtain ⟨row, rfl, stands⟩ := announcedLetter?_eq_some_iff.mp told
      exact fits.announced_of_source stands (Injection.not_isTorn_of_lossInsertion found stands)

theorem GradeRow.exists_isRead {text : Text} {letter : Char}
    (found : Injection.energyLetter? text = some letter) :
    ∃ start, ∃ row : GradeRow, row.letter = letter ∧ row.IsRead start text := by
  rw [energyLetter?_eq] at found
  obtain ⟨start, _, there, first⟩ := Text.firstMatch_eq_some_iff.mp found
  obtain ⟨row, direct, same, stands⟩ := directLetter?_eq_some_iff.mp there
  exact ⟨start, row, same, stands, direct, first⟩

/-- A report that gets an energy label tells its grade in a row, and the label shows the grade of
the first such row. Unless the label's line tears that row, the key figures have a grade too: the
same one, or that of an earlier row, with more than blanks before its bar. -/
theorem energyGrade_injectCharts {text : Text} {place : Insertion}
    (inserted : Injection.energyInsertion? text = some place) :
    ∃ start, ∃ row : GradeRow, row.IsRead start text ∧
      place.grade? = some [row.letter.toUpper] ∧
      (¬ row.IsTorn start place →
        ∃ grade, (Summary.ofText (injectCharts text)).energyGrade = some [grade] ∧
          (place.grade? = some [grade.toUpper] ∨
            ∃ earlier < start, ∃ other : GradeRow,
              other.text <+: text.drop earlier ∧ other.letter = grade ∧ ¬ other.Direct)) := by
  obtain ⟨letter, energy, told⟩ := Injection.grade_of_energyInsertion inserted
  obtain ⟨start, row, rfl, read⟩ := GradeRow.exists_isRead energy
  refine ⟨start, row, read, told, fun whole => ?_⟩
  obtain ⟨directive, fits⟩ := Injection.fits_of_energyInsertion inserted
  obtain ⟨afterLabel, fromLabel, toldLabel⟩ := fits.announced_of_source read.stands whole
  obtain ⟨origin, traces, keeps⟩ := exists_traces_addLossChart (Injection.addEnergyLabel text)
  obtain ⟨later, fromLoss, toldLater⟩ := keeps afterLabel row.letter toldLabel
  obtain ⟨first, before, grade, found, toldFirst⟩ :=
    Text.exists_firstMatch_le (lt_length_of_announcedLetter toldLater) toldLater
  refine ⟨grade, ?_, ?_⟩
  · rw [energyGrade_ofText, injectCharts, found]
    rfl
  · have inText := fits.announced_of_result (traces.back toldFirst)
    have atMost : place.origin (origin first) ≤ start := by
      rw [← fromLabel, ← fromLoss]
      exact place.origin_mono (traces.mono before)
    rcases Nat.lt_or_eq_of_le atMost with less | same
    · obtain ⟨other, isGrade, stands⟩ := announcedLetter?_eq_some_iff.mp inText
      refine .inr ⟨_, less, other, stands, isGrade, fun direct => ?_⟩
      have missed := read.first _ less
      rw [directLetter?_eq_some_iff.mpr ⟨other, direct, rfl, stands⟩] at missed
      contradiction
    · rw [same, GradeRow.announcedLetter?_of_stands read.stands] at inText
      exact .inl (Option.some.inj inText ▸ told)

/-- A report that tells its grade in the table below the heading of the score. -/
def scoreTable : Text :=
  "# Votre score énergétique\n| Classe énergétique actuelle | d |\n".toList

theorem energyGrade_injectCharts_scoreTable :
    ∃ place, Injection.energyInsertion? scoreTable = some place ∧
      ∃ start, ∃ row : GradeRow, row.IsRead start scoreTable ∧ ¬ row.IsTorn start place ∧
        ∃ grade, (Summary.ofText (injectCharts scoreTable)).energyGrade = some [grade] ∧
          (place.grade? = some [grade.toUpper] ∨
            ∃ earlier < start, ∃ other : GradeRow,
              other.text <+: scoreTable.drop earlier ∧ other.letter = grade ∧ ¬ other.Direct) := by
  obtain ⟨place, inserted, below⟩ :
      ∃ place, Injection.energyInsertion? scoreTable = some place ∧ place.upTo.length = 25 :=
    ⟨_, rfl, rfl⟩
  obtain ⟨start, row, read, _, grades⟩ := energyGrade_injectCharts inserted
  have noRow : ∀ earlier < 26, directLetter? (scoreTable.drop earlier) = none := by
    decide
  have later : 26 ≤ start := by
    by_contra earlier
    have missed := noRow start (by omega)
    rw [directLetter?_eq_some_iff.mpr ⟨row, read.direct, rfl, read.stands⟩] at missed
    contradiction
  have whole : ¬ row.IsTorn start place := by
    rintro (inWords | inCell) <;> omega
  exact ⟨place, inserted, start, row, read, whole, grades whole⟩

/-- A report that tells two grades, the first one for the key figures only. -/
def twoGrades : Text :=
  "# Votre score énergétique\n| Classe énergétique actuelle (DPE) | E |\n".toList ++
    "| Classe énergétique actuelle | D |\n".toList

theorem twoGrades_disagree :
    ¬ ∀ text place, Injection.energyInsertion? text = some place →
      ∃ grade, (Summary.ofText (injectCharts text)).energyGrade = some [grade] ∧
        place.grade? = some [grade.toUpper] := by
  intro agree
  have label : (Injection.energyInsertion? twoGrades).bind Insertion.grade? = some ['D'] := by
    decide +kernel
  have figures : (Summary.ofText (injectCharts twoGrades)).energyGrade = some ['E'] := by
    decide +kernel
  obtain ⟨place, inserted, told⟩ := Option.bind_eq_some_iff.mp label
  obtain ⟨grade, found, same⟩ := agree twoGrades place inserted
  rw [figures] at found
  cases found
  rw [told] at same
  revert same
  decide

end EnergyReport.Report
