import EnergyReport.Chart.Grade
import EnergyReport.Proofs.Text.Basic

namespace EnergyReport.Chart.Grade

/-! The letters that name grades. -/

variable {letter : Char}

theorem toNat_of_isLetter (named : isLetter letter) :
    (65 ≤ letter.toNat ∧ letter.toNat ≤ 71) ∨ (97 ≤ letter.toNat ∧ letter.toNat ≤ 103) := by
  have capitals : 'A'.val.toNat = 65 ∧ 'G'.val.toNat = 71 := by decide
  have small : 'a'.val.toNat = 97 ∧ 'g'.val.toNat = 103 := by decide
  simp only [isLetter, Bool.or_eq_true, Bool.and_eq_true, decide_eq_true_eq, Char.le_def,
    UInt32.le_iff_toNat_le] at named
  simp only [Char.toNat]
  omega

/-- A grade letter in either case names a grade. -/
theorem exists_of_isLetter (named : isLetter letter) :
    ∃ grade : Grade, letter.toUpper = grade.letter := by
  have range := toNat_of_isLetter named
  have checked : ∀ code < 104, isLetter (Char.ofNat code) →
      ∃ grade ∈ all, (Char.ofNat code).toUpper = grade.letter := by
    decide +kernel
  obtain ⟨grade, _, same⟩ := checked letter.toNat (by omega) (by rwa [Char.ofNat_toNat])
  exact ⟨grade, by rwa [Char.ofNat_toNat] at same⟩

theorem isBlank_of_isLetter (named : isLetter letter) : Text.isBlank letter = false := by
  have range := toNat_of_isLetter named
  simp only [Text.isBlank, Bool.or_eq_false_iff, Bool.and_eq_false_iff, decide_eq_false_iff_not,
    beq_eq_false_iff_ne]
  omega

theorem leadingLetter?_eq_some_iff {text : Text} :
    leadingLetter? text = some letter ↔ isLetter letter ∧ ∃ rest, text = letter :: rest := by
  cases text with
  | nil => simp [leadingLetter?]
  | cons c rest =>
      by_cases named : isLetter c
      · simp only [leadingLetter?, named, if_true, Option.some.injEq, List.cons.injEq,
          exists_eq_right']
        constructor
        · rintro rfl
          exact ⟨named, rfl⟩
        · exact fun parts => parts.2
      · simp only [leadingLetter?, named, Bool.false_eq_true, if_false, reduceCtorEq,
          List.cons.injEq, exists_eq_right', false_iff, not_and]
        rintro isLetter rfl
        exact named isLetter

theorem leadingLetter?_trimStart_eq_some_iff {text : Text} :
    leadingLetter? (Text.trimStart text) = some letter ↔
      ∃ blanks rest, (∀ c ∈ blanks, Text.isBlank c) ∧ isLetter letter ∧
        text = blanks ++ letter :: rest := by
  rw [leadingLetter?_eq_some_iff]
  constructor
  · rintro ⟨named, rest, trimmed⟩
    obtain ⟨blanks, blank, split⟩ := Text.exists_blanks_append_trimStart text
    exact ⟨blanks, rest, blank, named, trimmed ▸ split⟩
  · rintro ⟨blanks, rest, blank, named, rfl⟩
    refine ⟨named, rest, ?_⟩
    rw [Text.trimStart_append blank, Text.trimStart_cons (isBlank_of_isLetter named)]

theorem ofLetter?_letter (grade : Grade) : ofLetter? grade.letter = some grade := by
  cases grade <;> decide

theorem exists_ofLetter?_of_isLetter (named : isLetter letter) :
    ∃ grade, ofLetter? letter = some grade := by
  obtain ⟨grade, capital⟩ := exists_of_isLetter named
  have same : grade.letter.toUpper = grade.letter := by cases grade <;> decide
  refine ⟨grade, ?_⟩
  rw [ofLetter?, capital, ← same]
  exact ofLetter?_letter grade

end EnergyReport.Chart.Grade
