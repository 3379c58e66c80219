import EnergyReport.Chart.Grade
import EnergyReport.Proofs.Text.Basic
import EnergyReport.Report.Phrase
import Mathlib.Data.List.Chain
import Mathlib.Data.List.TakeWhile

namespace EnergyReport.Report

/-! What a phrase and the cell after it look like where they are found. -/

/-- The words of a phrase in any letter case, with blanks between them. -/
inductive Spells : List Text → Text → Prop where
  | last {word taken : Text} (folded : taken.map Text.foldCase = word) : Spells [word] taken
  | more {word taken gap words : Text} {others : List Text}
      (folded : taken.map Text.foldCase = word) (apart : gap ≠ [])
      (blank : ∀ c ∈ gap, Text.isBlank c) (spelled : Spells others words) :
      Spells (word :: others) (taken ++ gap ++ words)

/-- Whether no word of a phrase is empty or has a blank. -/
def isPhrase (phrase : List Text) : Bool :=
  phrase.all fun word => !word.isEmpty && word.all fun letter => !Text.isBlank letter

theorem isPhrase_cons {word : Text} {others : List Text} (legal : isPhrase (word :: others)) :
    word ≠ [] ∧ (∀ letter ∈ word, Text.isBlank letter = false) ∧ isPhrase others := by
  simpa [isPhrase, and_assoc] using legal

namespace Spells

variable {phrase : List Text} {words : Text}

theorem dark_of_folded {taken word : Text} (folded : taken.map Text.foldCase = word)
    (dark : ∀ letter ∈ word, Text.isBlank letter = false) :
    ∀ c ∈ taken, Text.isBlank c = false := by
  intro c member
  have letter : Text.foldCase c ∈ word := folded ▸ List.mem_map_of_mem member
  by_contra blank
  rw [Bool.not_eq_false] at blank
  rw [Text.foldCase_of_isBlank blank] at letter
  simp [dark c letter] at blank

theorem exists_dark_head (spelled : Spells phrase words) (legal : isPhrase phrase) :
    ∃ c rest, words = c :: rest ∧ Text.isBlank c = false := by
  have head {word taken : Text} (folded : taken.map Text.foldCase = word) (nonempty : word ≠ [])
      (dark : ∀ letter ∈ word, Text.isBlank letter = false) :
      ∃ c rest, taken = c :: rest ∧ Text.isBlank c = false := by
    obtain ⟨c, rest, rfl⟩ := List.exists_cons_of_ne_nil (l := taken) (by
      rintro rfl
      exact nonempty folded.symm)
    exact ⟨c, rest, rfl, dark_of_folded folded dark c (by simp)⟩
  cases spelled with
  | last folded =>
      obtain ⟨nonempty, dark, _⟩ := isPhrase_cons legal
      exact head folded nonempty dark
  | more folded apart blank spelled =>
      obtain ⟨nonempty, dark, _⟩ := isPhrase_cons legal
      obtain ⟨c, rest, rfl, isDark⟩ := head folded nonempty dark
      exact ⟨c, _, rfl, isDark⟩

theorem ne_nil (spelled : Spells phrase words) : phrase ≠ [] := by
  cases spelled <;> simp

theorem mem (spelled : Spells phrase words) {c : Char} (member : c ∈ words) :
    Text.isBlank c ∨ ∃ word ∈ phrase, Text.foldCase c ∈ word := by
  induction spelled with
  | last folded => exact .inr ⟨_, by simp, folded ▸ List.mem_map_of_mem member⟩
  | more folded apart blank spelled ih =>
      simp only [List.mem_append] at member
      rcases member with (inWord | inGap) | inRest
      · exact .inr ⟨_, by simp, folded ▸ List.mem_map_of_mem inWord⟩
      · exact .inl (blank c inGap)
      · rcases ih inRest with isBlank | ⟨word, among, letter⟩
        · exact .inl isBlank
        · exact .inr ⟨word, List.mem_cons_of_mem _ among, letter⟩

/-- A spelled phrase ends with the last letter of a word. -/
theorem exists_getLast (spelled : Spells phrase words) (legal : isPhrase phrase) :
    ∃ before c, words = before ++ [c] ∧
      ∃ word ∈ phrase, word.getLast? = some (Text.foldCase c) := by
  induction spelled with
  | @last word taken folded =>
      obtain ⟨nonempty, _, _⟩ := isPhrase_cons legal
      rw [← folded, ne_eq, List.map_eq_nil_iff] at nonempty
      obtain ⟨before, c, rfl⟩ := (List.eq_nil_or_concat' taken).resolve_left nonempty
      exact ⟨before, c, rfl, word, List.mem_singleton_self _, by simp [← folded]⟩
  | @more _ taken gap _ _ folded apart blank spelled ih =>
      obtain ⟨_, _, rest⟩ := isPhrase_cons legal
      obtain ⟨before, c, same, word, among, last⟩ := ih rest
      refine ⟨taken ++ gap ++ before, c, ?_, word, List.mem_cons_of_mem _ among, last⟩
      rw [same, List.append_assoc _ before]

/-- A blank in a spelled phrase follows another blank or the last letter of a word. -/
theorem isChain (spelled : Spells phrase words) (legal : isPhrase phrase) :
    words.IsChain fun c next => Text.isBlank next →
      Text.isBlank c ∨ ∃ word ∈ phrase, word.getLast? = some (Text.foldCase c) := by
  induction spelled with
  | last folded =>
      obtain ⟨_, dark, _⟩ := isPhrase_cons legal
      refine (List.pairwise_of_forall_mem_list fun c _ next member blank => ?_).isChain
      simp [dark_of_folded folded dark next member] at blank
  | @more word taken gap words others folded apart blank spelled ih =>
      obtain ⟨_, dark, rest⟩ := isPhrase_cons legal
      refine List.IsChain.append (List.IsChain.append ?_ ?_ ?_) ?_ ?_
      · refine (List.pairwise_of_forall_mem_list fun c _ next member isBlank => ?_).isChain
        simp [dark_of_folded folded dark next member] at isBlank
      · exact (List.pairwise_of_forall_mem_list fun c member _ _ _ => .inl (blank c member)).isChain
      · intro c isLast next _ _
        refine .inr ⟨word, by simp, ?_⟩
        rw [← folded, List.getLast?_map, isLast]
        rfl
      · refine (ih rest).imp ?_
        intro c next found isBlank
        refine (found isBlank).imp_right ?_
        rintro ⟨word, among, last⟩
        exact ⟨word, List.mem_cons_of_mem _ among, last⟩
      · intro c isLast next _ _
        rw [List.getLast?_append_of_ne_nil _ apart] at isLast
        exact .inl (blank c (List.mem_of_getLast? isLast))

theorem exists_first {word : Text} {others : List Text} (spelled : Spells (word :: others) words)
    (long : others ≠ []) :
    ∃ taken blank rest, taken.map Text.foldCase = word ∧ Text.isBlank blank ∧
      words = taken ++ blank :: rest := by
  cases spelled with
  | last => contradiction
  | @more _ taken gap words _ folded apart allBlank spelled =>
      obtain ⟨blank, blanks, rfl⟩ := List.exists_cons_of_ne_nil apart
      exact ⟨taken, blank, blanks ++ words, folded, allBlank blank (by simp), by simp⟩

end Spells

theorem afterPhrase?_eq_some_iff {phrase : List Text} {text rest : Text}
    (nonempty : phrase ≠ []) (legal : isPhrase phrase) :
    afterPhrase? phrase text = some rest ↔ ∃ words, Spells phrase words ∧ text = words ++ rest := by
  induction phrase generalizing text with
  | nil => contradiction
  | cons word others ih =>
      obtain ⟨_, _, othersLegal⟩ := isPhrase_cons legal
      cases others with
      | nil =>
          simp only [afterPhrase?, Text.stripWord?_eq_some_iff]
          constructor
          · rintro ⟨taken, folded, same⟩
            exact ⟨taken, .last folded, same⟩
          · rintro ⟨words, spelled, same⟩
            cases spelled with
            | last folded => exact ⟨words, folded, same⟩
            | more _ _ _ spelled => exact absurd rfl spelled.ne_nil
      | cons next more =>
          simp only [afterPhrase?]
          constructor
          · intro found
            split at found
            · rename_i c afterWord stripped
              split at found
              · rename_i blank
                obtain ⟨taken, folded, rfl⟩ := Text.stripWord?_eq_some_iff.mp stripped
                obtain ⟨blanks, allBlank, split⟩ := Text.exists_blanks_append_trimStart afterWord
                obtain ⟨words, spelled, same⟩ := (ih (by simp) othersLegal).mp found
                refine ⟨_, .more folded (List.cons_ne_nil c blanks) ?_ spelled, ?_⟩
                · exact List.forall_mem_cons.mpr ⟨blank, allBlank⟩
                · rw [split, same]
                  simp
              · contradiction
            · contradiction
          · rintro ⟨words, spelled, rfl⟩
            cases spelled with
            | @more _ taken gap words _ folded apart blank spelled =>
                obtain ⟨c, blanks, rfl⟩ := List.exists_cons_of_ne_nil apart
                obtain ⟨isBlank, blanksBlank⟩ := List.forall_mem_cons.mp blank
                obtain ⟨first, letters, head, dark⟩ := spelled.exists_dark_head othersLegal
                have stripped : Text.stripWord? word (taken ++ c :: blanks ++ words ++ rest) =
                    some (c :: (blanks ++ (words ++ rest))) :=
                  Text.stripWord?_eq_some_iff.mpr ⟨taken, folded, by simp⟩
                have trimmed : Text.trimStart (blanks ++ (words ++ rest)) = words ++ rest := by
                  rw [Text.trimStart_append blanksBlank, head, List.cons_append,
                    Text.trimStart_cons dark]
                simp only [stripped, isBlank, if_true, trimmed]
                exact (ih (by simp) othersLegal).mpr ⟨words, spelled, rfl⟩

theorem afterBar?_eq_some_iff {text rest : Text} :
    afterBar? text = some rest ↔ ∃ gap, '|' ∉ gap ∧ text = gap ++ '|' :: rest := by
  constructor
  · intro found
    unfold afterBar? at found
    split at found
    · rename_i bar after dropped
      cases found
      have isBar : bar = '|' := by
        have head := List.head?_dropWhile_not (· ≠ '|') text
        rw [dropped] at head
        simpa using head
      refine ⟨text.takeWhile (· ≠ '|'), fun member => ?_, ?_⟩
      · simpa using List.mem_takeWhile_imp member
      · rw [isBar] at dropped
        rw [← dropped, List.takeWhile_append_dropWhile]
    · contradiction
  · rintro ⟨gap, barless, rfl⟩
    have dropped : (gap ++ '|' :: rest).dropWhile (· ≠ '|') = '|' :: rest := by
      have before : ∀ c ∈ gap, decide (c ≠ '|') = true := by
        intro c member
        rw [decide_eq_true_eq]
        rintro rfl
        exact barless member
      rw [List.dropWhile_append_of_pos before]
      simp
    rw [afterBar?, dropped]

theorem afterDirectBar?_eq_some_iff {text rest : Text} :
    afterDirectBar? text = some rest ↔
      ∃ gap, (∀ c ∈ gap, Text.isBlank c) ∧ text = gap ++ '|' :: rest := by
  rw [afterDirectBar?, Text.strip?_eq_some_iff]
  constructor
  · intro trimmed
    obtain ⟨blanks, blank, split⟩ := Text.exists_blanks_append_trimStart text
    exact ⟨blanks, blank, by rw [split, trimmed]; rfl⟩
  · rintro ⟨gap, blank, rfl⟩
    rw [Text.trimStart_append blank, Text.trimStart_cons (by decide)]
    rfl

theorem leadingDigits?_eq_some_iff {text digits : Text} :
    leadingDigits? text = some digits ↔ text.takeWhile Text.isDigit = digits ∧ digits ≠ [] := by
  unfold leadingDigits?
  split
  · rename_i none
    simp only [none, reduceCtorEq, false_iff]
    rintro ⟨rfl, nonempty⟩
    contradiction
  · rename_i nonempty
    simp only [Option.some.injEq]
    exact ⟨fun same => ⟨same, fun empty => nonempty (same.trans empty)⟩, fun parts => parts.1⟩

theorem leadingDigits?_initial {text digits : Text} (leading : leadingDigits? text = some digits) :
    digits <+: text :=
  (leadingDigits?_eq_some_iff.mp leading).1 ▸ List.takeWhile_prefix _

theorem suffix_of_afterCompound {words : List Text} {text after : Text}
    (found : afterCompound? words text = some after) : after <:+ text := by
  induction words generalizing text with
  | nil =>
      cases found
      exact List.suffix_refl _
  | cons word others induction =>
      cases others with
      | nil =>
          obtain ⟨taken, _, rfl⟩ := Text.stripWord?_eq_some_iff.mp found
          exact List.suffix_append _ _
      | cons next more =>
          simp only [afterCompound?] at found
          split at found
          · rename_i rest stripped
            obtain ⟨taken, _, rfl⟩ := Text.stripWord?_eq_some_iff.mp stripped
            exact ((induction found).trans (List.dropWhile_suffix _)).trans (List.suffix_append _ _)
          · contradiction

end EnergyReport.Report
