import EnergyReport.Proofs.Report.Cell
import EnergyReport.Proofs.Text.LineEnding

namespace EnergyReport.Report.Summary

/-! What the figures of a report look like.

An amount is what stands between a bar and a unit, and it may be blank there: the figure is the
empty text then. A year is the first four digits of a cell, and more digits may follow. -/

/-- Digits, with nothing but blanks between them. -/
structure IsAmount (value : Text) : Prop where
  nonempty : value ≠ []
  chars : ∀ c ∈ value, Text.isDigit c ∨ Text.isBlank c
  begins : ∀ c ∈ value.head?, Text.isDigit c
  ends : ∀ c ∈ value.getLast?, Text.isDigit c

/-- What the sign of a unit is told apart by from the amount before it. -/
def isUnit (unit : Char) : Bool :=
  !Text.isDigit unit && !Text.isBlank unit

variable {unit sign : Char} {run cell value : Text}

theorem not_amount_of_unit (legal : isUnit unit) (folded : Text.foldCase sign = unit) :
    (Text.isDigit sign || Text.isBlank sign) = false := by
  simp only [isUnit, Bool.and_eq_true, Bool.not_eq_true'] at legal
  obtain ⟨noDigit, dark⟩ := legal
  by_contra amount
  simp only [Bool.not_eq_false, Bool.or_eq_true] at amount
  cases amount with
  | inl digit =>
      rw [Text.foldCase_of_decimalDigit digit] at folded
      simp [folded, noDigit] at digit
  | inr blank =>
      rw [Text.foldCase_of_isBlank blank] at folded
      simp [folded, dark] at blank

theorem amount?_eq_some_iff (legal : isUnit unit) :
    amount? unit cell = some value ↔
      ∃ run sign rest, cell = run ++ sign :: rest ∧ run ≠ [] ∧
        (∀ c ∈ run, Text.isDigit c ∨ Text.isBlank c) ∧ Text.foldCase sign = unit ∧
        value = Text.trim run := by
  constructor
  · intro found
    simp only [amount?] at found
    split at found
    · rename_i first more sign rest isRun isRest
      split at found
      · rename_i folded
        cases found
        obtain ⟨run, same⟩ : ∃ run,
            run = cell.takeWhile fun c => Text.isDigit c || Text.isBlank c := ⟨_, rfl⟩
        have atStart : run <+: cell := same ▸ List.takeWhile_prefix _
        rw [← same] at isRest
        refine ⟨run, sign, rest, ?_, ?_, ?_, folded, same ▸ rfl⟩
        · rw [← isRest, ← List.prefix_iff_eq_append.mp atStart]
          simp
        · simp [same, isRun]
        · intro c member
          rw [same] at member
          simpa using List.mem_takeWhile_imp member
      · contradiction
    · contradiction
  · intro parts
    obtain ⟨run, sign, rest, rfl, nonempty, amounts, folded, rfl⟩ := parts
    have noAmount := not_amount_of_unit legal folded
    have isRun : (run ++ sign :: rest).takeWhile (fun c => Text.isDigit c || Text.isBlank c) =
        run := by
      rw [List.takeWhile_append_of_pos (by simpa using amounts)]
      simp [noAmount]
    simp only [amount?, isRun, List.drop_left]
    obtain ⟨first, more, rfl⟩ := List.exists_cons_of_ne_nil nonempty
    simp [folded]

theorem isAmount_trim_iff (amounts : ∀ c ∈ run, Text.isDigit c ∨ Text.isBlank c) :
    IsAmount (Text.trim run) ↔ ∃ c ∈ run, Text.isDigit c := by
  have dark {c : Char} (member : c ∈ Text.trim run) (notBlank : Text.isBlank c = false) :
      Text.isDigit c := by
    cases amounts c (Text.mem_of_mem_trim member) with
    | inl digit => exact digit
    | inr blank => simp [notBlank] at blank
  constructor
  · intro amount
    obtain ⟨first, more, parts⟩ := List.exists_cons_of_ne_nil amount.nonempty
    have member : first ∈ Text.trim run := by simp [parts]
    exact ⟨first, Text.mem_of_mem_trim member, amount.begins first (by simp [parts])⟩
  · intro found
    obtain ⟨c, member, digit⟩ := found
    refine ⟨?_, fun c member => amounts c (Text.mem_of_mem_trim member), ?_, ?_⟩
    · intro empty
      have blank := Text.trim_eq_nil_iff.mp empty c member
      simp [Text.isDigit_of_isBlank blank] at digit
    · intro first isFirst
      exact dark (List.mem_of_head? isFirst) (Text.isBlank_head?_trim run first isFirst)
    · intro last isLast
      exact dark (List.mem_of_getLast? isLast) (Text.isBlank_getLast?_trim run last isLast)

theorem year?_eq_some_iff :
    year? cell = some value ↔
      ∃ blanks rest, cell = blanks ++ value ++ rest ∧ (∀ c ∈ blanks, Text.isBlank c) ∧
        value.length = 4 ∧ ∀ c ∈ value, Text.isDigit c := by
  constructor
  · intro found
    simp only [year?] at found
    split at found
    · rename_i year
      cases found
      simp only [Bool.and_eq_true, decide_eq_true_eq, List.all_eq_true] at year
      obtain ⟨blanks, blank, parts⟩ := Text.exists_blanks_append_trimStart cell
      refine ⟨blanks, (Text.trimStart cell).drop 4, ?_, blank, year⟩
      rw [List.append_assoc, List.take_append_drop, ← parts]
    · contradiction
  · intro parts
    obtain ⟨blanks, rest, rfl, blank, long, digits⟩ := parts
    obtain ⟨first, more, rfl⟩ := List.exists_cons_of_length_pos (l := value) (by omega)
    have dark : Text.isBlank first = false := by
      by_contra isBlank
      rw [Bool.not_eq_false] at isBlank
      have digit := digits first (by simp)
      simp [Text.isDigit_of_isBlank isBlank] at digit
    have trimmed : Text.trimStart (blanks ++ (first :: more) ++ rest) = first :: more ++ rest := by
      rw [List.append_assoc, Text.trimStart_append blank, List.cons_append,
        Text.trimStart_cons dark]
    have isYear : (first :: more ++ rest).take 4 = first :: more := List.take_left' long
    have allDigits : (first :: more).all Text.isDigit := List.all_eq_true.mpr digits
    simp only [year?, trimmed, isYear, long, allDigits, decide_true, Bool.and_self, if_true]

theorem readsFrom_year {blanks : Text} (blank : ∀ c ∈ blanks, Text.isBlank c)
    (long : value.length = 4) (digits : ∀ c ∈ value, Text.isDigit c) :
    CellSearch.ReadsFrom year? (blanks ++ value) value where
  barless := by
    have inBlanks : '|' ∉ blanks := fun member => absurd (blank '|' member) (by decide)
    have inValue : '|' ∉ value := fun member => absurd (digits '|' member) (by decide)
    simp [inBlanks, inValue]
  reads rest := year?_eq_some_iff.mpr ⟨blanks, rest, rfl, blank, long, digits⟩

theorem isLocal_year : CellSearch.IsLocal year? := by
  intro cell value found
  obtain ⟨blanks, rest, rfl, blank, long, digits⟩ := year?_eq_some_iff.mp found
  exact ⟨blanks ++ value, rest, rfl, readsFrom_year blank long digits⟩

/-! ### The figures of a report -/

def surfaceCell : CellSearch := .behind ["surface".toList, "habitable".toList] (by decide)

def yearCell : CellSearch :=
  .behind ["année".toList, "de".toList, "construction".toList] (by decide)

def costCell : CellSearch := .behind ["coût".toList, "annuel".toList] (by decide)

theorem figure?_eq_find {phrase : List Text} (legal : isLeading phrase)
    (recognise : Text → Option Text) (text : Text) :
    figure? phrase recognise text = (CellSearch.behind phrase legal).find? recognise text := by
  simp only [figure?, CellSearch.find?, CellSearch.behind, CellSearch.afterGap, Option.bind_assoc]
  rfl

theorem surface_ofText (text : Text) :
    (ofText text).surface = surfaceCell.find? (amount? 'm') text :=
  figure?_eq_find (by decide) _ text

theorem annualCost_ofText (text : Text) :
    (ofText text).annualCost = costCell.find? (amount? '€') text :=
  figure?_eq_find (by decide) _ text

theorem constructionYear_ofText (text : Text) :
    (ofText text).constructionYear = yearCell.find? year? text :=
  figure?_eq_find (by decide) _ text

/-- What stands between a bar and a unit, in the first cell that has nothing else there than digits
and blanks. -/
structure IsAmountCell (search : CellSearch) (unit : Char) (text before run : Text) (sign : Char)
    (rest : Text) : Prop where
  isFirst : search.IsFirst (amount? unit) text before (run ++ sign :: rest)
  nonempty : run ≠ []
  amounts : ∀ c ∈ run, Text.isDigit c ∨ Text.isBlank c
  isUnit : Text.foldCase sign = unit

/-- The first cell that begins with four digits. -/
structure IsYearCell (text before blanks value rest : Text) : Prop where
  isFirst : yearCell.IsFirst year? text before (blanks ++ value ++ rest)
  blank : ∀ c ∈ blanks, Text.isBlank c
  long : value.length = 4
  digits : ∀ c ∈ value, Text.isDigit c

theorem find?_amount_eq_some_iff {search : CellSearch} {text : Text} (legal : isUnit unit) :
    search.find? (amount? unit) text = some value ↔
      ∃ before run sign rest, IsAmountCell search unit text before run sign rest ∧
        Text.trim run = value := by
  rw [CellSearch.find?_eq_some_iff]
  constructor
  · intro found
    obtain ⟨before, cell, isFirst, isRead⟩ := found
    obtain ⟨run, sign, rest, rfl, nonempty, amounts, folded, rfl⟩ :=
      (amount?_eq_some_iff legal).mp isRead
    exact ⟨before, run, sign, rest, ⟨isFirst, nonempty, amounts, folded⟩, rfl⟩
  · intro found
    obtain ⟨before, run, sign, rest, inCell, rfl⟩ := found
    refine ⟨before, _, inCell.isFirst, (amount?_eq_some_iff legal).mpr ?_⟩
    exact ⟨run, sign, rest, rfl, inCell.nonempty, inCell.amounts, inCell.isUnit, rfl⟩

theorem find?_year_eq_some_iff {text : Text} :
    yearCell.find? year? text = some value ↔
      ∃ before blanks rest, IsYearCell text before blanks value rest := by
  rw [CellSearch.find?_eq_some_iff]
  constructor
  · intro found
    obtain ⟨before, cell, isFirst, isRead⟩ := found
    obtain ⟨blanks, rest, rfl, blank, long, digits⟩ := year?_eq_some_iff.mp isRead
    exact ⟨before, blanks, rest, isFirst, blank, long, digits⟩
  · intro found
    obtain ⟨before, blanks, rest, isFirst, blank, long, digits⟩ := found
    exact ⟨before, _, isFirst, year?_eq_some_iff.mpr ⟨blanks, rest, rfl, blank, long, digits⟩⟩

theorem IsYearCell.of_append {text before blanks rest : Text}
    (inCell : IsYearCell text before blanks value rest) (following : Text) :
    IsYearCell (before ++ '|' :: (blanks ++ value ++ following)) before blanks value following where
  isFirst := inCell.isFirst.of_append isLocal_year
    (readsFrom_year inCell.blank inCell.long inCell.digits) following
  blank := inCell.blank
  long := inCell.long
  digits := inCell.digits

/-- No digit stands before a year in its cell. -/
theorem IsYearCell.getLast?_before {text before blanks rest : Text}
    (inCell : IsYearCell text before blanks value rest) :
    ∀ c ∈ (before ++ '|' :: blanks).getLast?, Text.isDigit c = false := by
  intro c last
  rw [List.getLast?_append_of_ne_nil _ (by simp)] at last
  have member := List.mem_of_getLast? last
  rw [List.mem_cons] at member
  cases member with
  | inl bar =>
      rw [bar]
      decide
  | inr inBlanks => exact Text.isDigit_of_isBlank (inCell.blank c inBlanks)

/-- The surface and the cost are what stands before the unit in the first cell that holds nothing
but digits and blanks there. They are numbers where it holds a digit, and empty where it is blank.
The year is the first four digits of the first cell that begins with so many, whatever follows. -/
theorem figures_are_first_cells (text : Text) :
    (∀ value, (ofText text).surface = some value ↔
      ∃ before run sign rest, IsAmountCell surfaceCell 'm' text before run sign rest ∧
        Text.trim run = value) ∧
    (∀ value, (ofText text).annualCost = some value ↔
      ∃ before run sign rest, IsAmountCell costCell '€' text before run sign rest ∧
        Text.trim run = value) ∧
    (∀ search unit before run sign rest, IsAmountCell search unit text before run sign rest →
      (IsAmount (Text.trim run) ↔ ∃ c ∈ run, Text.isDigit c) ∧
        (Text.trim run = [] ↔ ∀ c ∈ run, Text.isBlank c)) ∧
    (∀ value, (ofText text).constructionYear = some value ↔
      ∃ before blanks rest, IsYearCell text before blanks value rest) ∧
    ∀ before blanks value rest, IsYearCell text before blanks value rest →
      (∀ c ∈ (before ++ '|' :: blanks).getLast?, Text.isDigit c = false) ∧
        ∀ following, IsYearCell (before ++ '|' :: (blanks ++ value ++ following)) before blanks
          value following := by
  refine ⟨fun value => ?_, fun value => ?_, ?_, fun value => ?_, ?_⟩
  · rw [surface_ofText]
    exact find?_amount_eq_some_iff (by decide)
  · rw [annualCost_ofText]
    exact find?_amount_eq_some_iff (by decide)
  · intro search unit before run sign rest inCell
    exact ⟨isAmount_trim_iff inCell.amounts, Text.trim_eq_nil_iff⟩
  · rw [constructionYear_ofText]
    exact find?_year_eq_some_iff
  · intro before blanks value rest inCell
    exact ⟨inCell.getLast?_before, inCell.of_append⟩

/-- A unit alone in its cell is the empty surface, and a year is cut out of a longer number. -/
theorem not_figures_are_numbers :
    (¬ ∀ text value, (ofText text).surface = some value → IsAmount value) ∧
      ¬ ∀ text before blanks value rest, IsYearCell text before blanks value rest →
        ∀ c ∈ rest.head?, Text.isDigit c = false := by
  constructor
  · intro numbers
    have empty : (ofText "| Surface habitable | m² |\n".toList).surface = some [] := by
      decide +kernel
    exact (numbers _ _ empty).nonempty rfl
  · intro whole
    have found : (ofText "| Année de construction | 1975 |\n".toList).constructionYear =
        some "1975".toList := by
      decide +kernel
    rw [constructionYear_ofText, find?_year_eq_some_iff] at found
    obtain ⟨before, blanks, rest, inCell⟩ := found
    have digit := whole _ _ _ _ _ (inCell.of_append ['5']) '5' rfl
    revert digit
    decide

end EnergyReport.Report.Summary
