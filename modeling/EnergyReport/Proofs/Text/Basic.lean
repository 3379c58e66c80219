import EnergyReport.Text.Blank
import EnergyReport.Text.Case
import EnergyReport.Text.Digit
import Mathlib.Data.List.Basic
import Mathlib.Data.List.TakeWhile

namespace EnergyReport.Text

/-! Where recognisers succeed in a text, and what is left of it. -/

section Recognisers

variable {text : Text}

@[simp] theorem strip?_append (expected rest : Text) :
    strip? expected (expected ++ rest) = some rest := by
  induction expected with
  | nil => rfl
  | cons c more ih => simpa [strip?] using ih

theorem strip?_eq_some_iff {expected rest : Text} :
    strip? expected text = some rest ↔ text = expected ++ rest := by
  constructor
  · intro stripped
    induction expected generalizing text with
    | nil => simpa [strip?] using stripped
    | cons e more ih =>
        cases text with
        | nil => simp [strip?] at stripped
        | cons c text =>
            simp only [strip?] at stripped
            split at stripped
            · rename_i same
              rw [same, ih stripped, List.cons_append]
            · contradiction
  · rintro rfl
    exact strip?_append expected rest

theorem stripEnd?_eq_some_iff {expected before : Text} :
    stripEnd? expected text = some before ↔ text = before ++ expected := by
  rw [stripEnd?, Option.map_eq_some_iff]
  constructor
  · intro stripped
    obtain ⟨reversed, stripped, rfl⟩ := stripped
    rw [← List.reverse_inj, List.reverse_append, List.reverse_reverse]
    exact strip?_eq_some_iff.mp stripped
  · intro ends
    refine ⟨before.reverse, strip?_eq_some_iff.mpr ?_, List.reverse_reverse before⟩
    rw [ends, List.reverse_append]

/-- The first occurrence of a text, and what stands before and after it. -/
theorem eq_append_of_cut {needle before after : Text}
    (cut : cut? needle text = some (before, after)) : text = before ++ needle ++ after := by
  induction text generalizing before with
  | nil =>
      simp only [cut?] at cut
      split at cut
      · rename_i empty
        cases cut
        simp [empty]
      · contradiction
  | cons c rest ih =>
      simp only [cut?] at cut
      split at cut
      · rename_i stripped
        cases cut
        simpa using strip?_eq_some_iff.mp stripped
      · obtain ⟨⟨left, right⟩, inRest, same⟩ := Option.map_eq_some_iff.mp cut
        simp only [Prod.mk.injEq] at same
        obtain ⟨rfl, rfl⟩ := same
        rw [ih inRest]
        simp

theorem firstMatch_eq_some_iff {α : Type} {recognise : Text → Option α} {value : α} :
    firstMatch recognise text = some value ↔
      ∃ start < text.length, recognise (text.drop start) = some value ∧
        ∀ earlier < start, recognise (text.drop earlier) = none := by
  induction text with
  | nil => simp [firstMatch]
  | cons c rest ih =>
      cases here : recognise (c :: rest) with
      | some found =>
          simp only [firstMatch, here, Option.some.injEq]
          constructor
          · rintro rfl
            exact ⟨0, by simp, by simpa using here, by simp⟩
          · rintro ⟨start, _, there, none⟩
            cases start with
            | zero => simpa [here] using there
            | succ start => simpa [here] using none 0 (by omega)
      | none =>
          simp only [firstMatch, here, ih]
          constructor
          · rintro ⟨start, within, there, none⟩
            refine ⟨start + 1, by simpa using within, by simpa using there, ?_⟩
            intro earlier before
            cases earlier with
            | zero => simpa using here
            | succ earlier => simpa using none earlier (by omega)
          · rintro ⟨start, within, there, none⟩
            cases start with
            | zero => simp [here] at there
            | succ start =>
                refine ⟨start, by simpa using within, by simpa using there, ?_⟩
                intro earlier before
                simpa using none (earlier + 1) (by omega)

theorem exists_place_of_firstMatch {α : Type} {recognise : Text → Option α} {value : α}
    (found : firstMatch recognise text = some value) :
    ∃ before place, text = before ++ place ∧ recognise place = some value := by
  obtain ⟨start, _, there, _⟩ := firstMatch_eq_some_iff.mp found
  exact ⟨text.take start, text.drop start, (List.take_append_drop start text).symm, there⟩

theorem firstMatch_eq_none_iff {α : Type} {recognise : Text → Option α} :
    firstMatch recognise text = none ↔
      ∀ start < text.length, recognise (text.drop start) = none := by
  induction text with
  | nil => simp [firstMatch]
  | cons c rest ih =>
      cases here : recognise (c :: rest) with
      | some found =>
          simp only [firstMatch, here, reduceCtorEq, false_iff]
          intro nowhere
          simpa [here] using nowhere 0 (by simp)
      | none =>
          simp only [firstMatch, here, ih]
          constructor
          · intro nowhere start within
            cases start with
            | zero => simpa using here
            | succ start => simpa using nowhere start (by simpa using within)
          · intro nowhere start within
            simpa using nowhere (start + 1) (by simpa using within)

/-- A search finds something at a place where the recogniser succeeds, or before it. -/
theorem exists_firstMatch_le {α : Type} {recognise : Text → Option α} {value : α} {start : Nat}
    (within : start < text.length) (there : recognise (text.drop start) = some value) :
    ∃ first ≤ start, ∃ found, firstMatch recognise text = some found ∧
      recognise (text.drop first) = some found := by
  cases found : firstMatch recognise text with
  | none =>
      rw [firstMatch_eq_none_iff.mp found start within] at there
      contradiction
  | some value' =>
      obtain ⟨first, _, atFirst, none⟩ := firstMatch_eq_some_iff.mp found
      refine ⟨first, ?_, value', rfl, atFirst⟩
      by_contra later
      rw [none start (by omega)] at there
      contradiction

theorem firstMatch_map {α β : Type} (recognise : Text → Option α) (view : α → β) (text : Text) :
    firstMatch (fun place => (recognise place).map view) text =
      (firstMatch recognise text).map view := by
  induction text with
  | nil => rfl
  | cons c rest ih => cases here : recognise (c :: rest) <;> simp [firstMatch, here, ih]

end Recognisers

/-- A character of a joined text belongs to one of the texts or stands between two of them. -/
theorem mem_intercalate {separator : Text} {texts : List Text} {c : Char}
    (member : c ∈ separator.intercalate texts) : c ∈ separator ∨ ∃ text ∈ texts, c ∈ text := by
  induction texts with
  | nil => simp at member
  | cons first rest ih =>
      cases rest with
      | nil => exact .inr ⟨first, by simp, by simpa using member⟩
      | cons next more =>
          simp only [List.intercalate_cons_cons, List.mem_append] at member
          rcases member with (inFirst | between) | inRest
          · exact .inr ⟨first, by simp, inFirst⟩
          · exact .inl between
          · rcases ih inRest with between | ⟨text, among, inText⟩
            · exact .inl between
            · exact .inr ⟨text, List.mem_cons_of_mem first among, inText⟩

/-- A joined text ends with the last of the texts. -/
theorem suffix_intercalate (separator : Text) (texts : List Text) (last : Text) :
    last <:+ separator.intercalate (texts ++ [last]) := by
  induction texts with
  | nil => simp
  | cons first rest ih =>
      rw [List.cons_append, List.intercalate_cons_of_ne_nil (by simp)]
      exact ih.trans (List.suffix_append _ _)

theorem infix_intercalate {separator text : Text} {texts : List Text} (member : text ∈ texts) :
    text <:+: separator.intercalate texts := by
  obtain ⟨front, back, rfl⟩ := List.append_of_mem member
  induction front with
  | nil =>
      cases back with
      | nil => simp
      | cons next more =>
          rw [List.nil_append, List.intercalate_cons_cons, List.append_assoc]
          exact (List.prefix_append _ _).isInfix
  | cons first front ih =>
      rw [List.cons_append, List.intercalate_cons_of_ne_nil (by simp)]
      exact (ih (by simp)).trans (List.suffix_append _ _).isInfix

section Trimming

variable {text : Text}

theorem mem_of_mem_trim {c : Char} (member : c ∈ trim text) : c ∈ text := by
  simp only [trim, trimEnd, trimStart, List.mem_reverse] at member
  have atStart := (List.dropWhile_sublist _).subset member
  exact (List.dropWhile_sublist _).subset (List.mem_reverse.mp atStart)

theorem trimStart_append {blanks : Text} (blank : ∀ c ∈ blanks, isBlank c) (rest : Text) :
    trimStart (blanks ++ rest) = trimStart rest :=
  List.dropWhile_append_of_pos blank

/-- The blanks at the beginning of a text, and what `trimStart` leaves of it. -/
theorem exists_blanks_append_trimStart (text : Text) :
    ∃ blanks, (∀ c ∈ blanks, isBlank c) ∧ text = blanks ++ trimStart text :=
  ⟨text.takeWhile isBlank, fun _ member => List.all_eq_true.mp List.all_takeWhile _ member,
    List.takeWhile_append_dropWhile.symm⟩

theorem trimStart_cons {c : Char} {rest : Text} (dark : isBlank c = false) :
    trimStart (c :: rest) = c :: rest := by
  simp [trimStart, dark]

theorem trimEnd_append_singleton {c : Char} {before : Text} (dark : isBlank c = false) :
    trimEnd (before ++ [c]) = before ++ [c] := by
  simp [trimEnd, dark]

theorem trimEnd_append_blank {c : Char} {before : Text} (blank : isBlank c = true) :
    trimEnd (before ++ [c]) = trimEnd before := by
  simp [trimEnd, blank]

/-- A text without blanks at its two ends is trimmed. -/
theorem trim_of_dark_ends {first last : Char} {middle : Text} (dark : isBlank first = false)
    (darkEnd : isBlank last = false) :
    trim (first :: middle ++ [last]) = first :: middle ++ [last] := by
  rw [trim, List.cons_append, trimStart_cons dark, ← List.cons_append,
    trimEnd_append_singleton darkEnd]

/-- A blank after such a text is all that is trimmed. -/
theorem trim_append_blank {first last blank : Char} {middle : Text} (dark : isBlank first = false)
    (darkEnd : isBlank last = false) (isBlank : isBlank blank = true) :
    trim (first :: middle ++ [last] ++ [blank]) = first :: middle ++ [last] := by
  rw [trim, List.cons_append, List.cons_append, trimStart_cons dark, ← List.cons_append,
    ← List.cons_append, trimEnd_append_blank isBlank, trimEnd_append_singleton darkEnd]

end Trimming

section Words

variable {word text rest : Text}

theorem stripWord?_eq_some_iff :
    stripWord? word text = some rest ↔
      ∃ taken, taken.map foldCase = word ∧ text = taken ++ rest := by
  induction word generalizing text with
  | nil =>
      simp only [stripWord?, Option.some.injEq, List.map_eq_nil_iff]
      exact ⟨fun same => ⟨[], rfl, same⟩, fun ⟨taken, empty, same⟩ => by simpa [empty] using same⟩
  | cons letter more ih =>
      cases text with
      | nil => simp [stripWord?]
      | cons c text =>
          simp only [stripWord?]
          constructor
          · intro stripped
            split at stripped
            · rename_i folded
              obtain ⟨taken, same, rfl⟩ := ih.mp stripped
              exact ⟨c :: taken, by rw [List.map_cons, folded, same], rfl⟩
            · contradiction
          · rintro ⟨taken, folded, same⟩
            cases taken with
            | nil => contradiction
            | cons first taken =>
                simp only [List.map_cons, List.cons.injEq] at folded
                simp only [List.cons_append, List.cons.injEq] at same
                obtain ⟨rfl, rfl⟩ := same
                rw [if_pos folded.1]
                exact ih.mpr ⟨taken, folded.2, rfl⟩

theorem foldCase_eq_self {c : Char} (notCapital : c.toNat < 65 ∨ 90 < c.toNat)
    (others : c ≠ 'É' ∧ c ≠ 'Û' ∧ c ≠ '\u017F') : foldCase c = c := by
  have bounds : 'A'.val.toNat = 65 ∧ 'Z'.val.toNat = 90 := by decide
  have small : c.toLower = c := by
    refine dif_neg ?_
    simp only [Char.toNat] at notCapital
    simp only [ge_iff_le, UInt32.le_iff_toNat_le]
    omega
  simp [foldCase, others, small]

theorem foldCase_of_isBlank {c : Char} (blank : isBlank c) : foldCase c = c := by
  refine foldCase_eq_self ?_ ?_
  · simp only [isBlank, Bool.or_eq_true, Bool.and_eq_true, decide_eq_true_eq, beq_iff_eq] at blank
    omega
  · refine ⟨?_, ?_, ?_⟩ <;> rintro rfl <;> revert blank <;> decide

theorem toNat_of_isDigit {c : Char} (isDigit : c.isDigit) : 48 ≤ c.toNat ∧ c.toNat ≤ 57 := by
  simpa [Char.isDigit, UInt32.le_iff_toNat_le] using isDigit

theorem toNat_of_isLower {c : Char} (lower : c.isLower) : 97 ≤ c.toNat ∧ c.toNat ≤ 122 := by
  have bounds : 'a'.val.toNat = 97 ∧ 'z'.val.toNat = 122 := by decide
  have range : (decide ('a'.val ≤ c.val) && decide (c.val ≤ 'z'.val)) = true := lower
  simp only [UInt32.le_iff_toNat_le, Bool.and_eq_true, decide_eq_true_eq] at range
  rwa [bounds.1, bounds.2] at range

theorem foldCase_of_isDigit {c : Char} (isDigit : c.isDigit) : foldCase c = c := by
  refine foldCase_eq_self ?_ ?_
  · have range := toNat_of_isDigit isDigit
    omega
  · refine ⟨?_, ?_, ?_⟩ <;> rintro rfl <;> contradiction

end Words

section Digits

variable {c : Char}

theorem exists_first_of_isDigit (digit : isDigit c) :
    ∃ first ∈ zeroDigits, first ≤ c.toNat ∧ c.toNat < first + 10 := by
  simp only [isDigit, Bool.or_eq_true, List.any_eq_true, Bool.and_eq_true,
    decide_eq_true_eq] at digit
  rcases digit with ascii | listed
  · have range := toNat_of_isDigit ascii
    exact ⟨0x30, by decide, by omega, by omega⟩
  · exact listed

theorem isDigit_of_isBlank (blank : isBlank c) : isDigit c = false := by
  by_contra digit
  rw [Bool.not_eq_false] at digit
  obtain ⟨first, listed, atLeast, below⟩ := exists_first_of_isDigit digit
  have ranges : ∀ first ∈ zeroDigits, first = 0x30 ∨ 0x600 < first ∧ first < 0x1600 ∨
      0x1700 < first ∧ first < 0x1F00 ∨ 0x3000 < first := by
    decide
  have range := ranges first listed
  simp only [isBlank, Bool.or_eq_true, Bool.and_eq_true, decide_eq_true_eq,
    beq_iff_eq] at blank
  omega

theorem foldCase_of_decimalDigit (digit : isDigit c) : foldCase c = c := by
  obtain ⟨first, listed, atLeast, below⟩ := exists_first_of_isDigit digit
  have ranges : ∀ first ∈ zeroDigits, first = 0x30 ∨ 0x600 < first := by decide
  have range := ranges first listed
  refine foldCase_eq_self (by omega) ⟨?_, ?_, ?_⟩ <;>
  · rintro rfl
    revert digit
    decide

theorem isDigit_of_isLower (lower : (foldCase c).isLower) : isDigit c = false := by
  by_contra digit
  rw [Bool.not_eq_false] at digit
  rw [foldCase_of_decimalDigit digit] at lower
  obtain ⟨first, listed, atLeast, below⟩ := exists_first_of_isDigit digit
  have ranges : ∀ first ∈ zeroDigits, first = 0x30 ∨ 0x600 < first := by decide
  have range := ranges first listed
  have small := toNat_of_isLower lower
  omega

end Digits

section Lines

theorem splitOn_ne_nil (separator : Char) (text : Text) : splitOn separator text ≠ [] := by
  cases text with
  | nil => simp [splitOn]
  | cons c rest =>
      simp only [splitOn]
      split
      · simp
      · split <;> simp

theorem splitOn_eq (separator : Char) (text : Text) :
    splitOn separator text = List.splitOn separator text := by
  induction text with
  | nil => rfl
  | cons c rest ih =>
      rw [List.splitOn_cons_eq_if_modifyHead, ← ih, splitOn]
      simp only [beq_iff_eq]
      split
      · rfl
      · obtain ⟨piece, others, pieces⟩ := List.exists_cons_of_ne_nil (splitOn_ne_nil separator rest)
        rw [pieces]
        rfl

theorem splitOn_append_cons (separator : Char) (first second : Text) :
    splitOn separator (first ++ separator :: second) =
      splitOn separator first ++ splitOn separator second := by
  simp only [splitOn_eq, List.splitOn_eq_splitOnP]
  exact List.splitOnP_append_cons first second (beq_self_eq_true separator)

theorem splitOn_of_not_mem {separator : Char} {text : Text} (absent : separator ∉ text) :
    splitOn separator text = [text] := by
  rw [splitOn_eq]
  exact List.splitOn_eq_singleton absent

/-- A line end between two texts stands between their lines. -/
theorem lines_append_newline (first second : Text) :
    lines (first ++ '\n' :: second) = lines first ++ lines second :=
  splitOn_append_cons '\n' first second

/-- The first line of a text, and what follows it from the end of the line on. -/
theorem exists_line (text : Text) :
    ∃ line ended, text.takeWhile (· ≠ '\n') = line ∧ text.drop line.length = ended ∧
      text = line ++ ended ∧ '\n' ∉ line ∧ (ended = [] ∨ ∃ rest, ended = '\n' :: rest) := by
  have whole : text.takeWhile (· ≠ '\n') ++ text.dropWhile (· ≠ '\n') = text :=
    List.takeWhile_append_dropWhile
  have dropped := congrArg (List.drop (text.takeWhile (· ≠ '\n')).length) whole
  rw [List.drop_left] at dropped
  refine ⟨_, _, rfl, dropped.symm, whole.symm, fun member => ?_, ?_⟩
  · simpa using List.mem_takeWhile_imp member
  · have head := List.head?_dropWhile_not (· ≠ '\n') text
    cases ended : text.dropWhile (· ≠ '\n') with
    | nil => exact .inl rfl
    | cons c rest =>
        rw [ended] at head
        exact .inr ⟨rest, by simpa using head⟩

theorem lines_of_not_mem {text : Text} (oneLine : '\n' ∉ text) : lines text = [text] :=
  splitOn_of_not_mem oneLine

theorem lines_cons {line : Text} (oneLine : '\n' ∉ line) (rest : Text) :
    lines (line ++ '\n' :: rest) = line :: lines rest := by
  rw [lines_append_newline, lines_of_not_mem oneLine]
  rfl

/-- A text is a last line, or a line before another text. -/
@[elab_as_elim]
theorem lineInduction {motive : Text → Prop} (last : ∀ line, '\n' ∉ line → motive line)
    (line : ∀ line rest, '\n' ∉ line → motive rest → motive (line ++ '\n' :: rest)) (text : Text) :
    motive text := by
  obtain ⟨first, ended, _, _, whole, oneLine, ends⟩ := exists_line text
  rcases ends with rfl | ⟨rest, rfl⟩
  · rw [whole, List.append_nil]
    exact last first oneLine
  · rw [whole]
    exact line first rest oneLine (lineInduction last line rest)
termination_by text.length
decreasing_by
  rw [whole, List.length_append, List.length_cons]
  omega

/-- The text of some lines. -/
def joinLines (lines : List Text) : Text :=
  List.intercalate ['\n'] lines

theorem joinLines_lines (text : Text) : joinLines (lines text) = text := by
  induction text using lineInduction with
  | last line oneLine => simp [lines_of_not_mem oneLine, joinLines, List.intercalate]
  | line line rest oneLine induction =>
      obtain ⟨next, others, isLines⟩ :=
        List.exists_cons_of_ne_nil (splitOn_ne_nil '\n' rest)
      have isLines : lines rest = next :: others := isLines
      rw [lines_cons oneLine]
      rw [isLines, joinLines, List.intercalate] at induction ⊢
      simpa using induction

end Lines

end EnergyReport.Text
