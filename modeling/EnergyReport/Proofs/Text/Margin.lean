import EnergyReport.Proofs.Text.LineEnding
import Mathlib.Data.List.Induction

namespace EnergyReport.Text

/-! Blanks at the two ends of a line, which are put there or trimmed off. -/

/-- The line with blanks put at its ends. -/
def Pads (line padded : Text) : Prop :=
  ∃ before after, (∀ c ∈ before, isBlank c) ∧ (∀ c ∈ after, isBlank c) ∧
    padded = before ++ line ++ after

/-- Texts with the same lines but for the blanks at the ends of lines, which are put in or left out
at will. -/
def SameButMargins (first second : Text) : Prop :=
  List.Forall₂ (fun line other => ∃ core, Pads core line ∧ Pads core other)
    (lines first) (lines second)

theorem pads_trim (line : Text) : Pads (trim line) line := by
  obtain ⟨before, blank, parts⟩ := exists_blanks_append_trimStart line
  obtain ⟨after, blankBehind, rest⟩ := exists_blanks_append_trimStart (trimStart line).reverse
  have whole := congrArg List.reverse rest
  rw [List.reverse_reverse, List.reverse_append] at whole
  refine ⟨before, after.reverse, blank, fun c member => ?_, ?_⟩
  · exact blankBehind c (List.mem_reverse.mp member)
  · rw [List.append_assoc]
    exact parts.trans (congrArg (before ++ ·) whole)

theorem trim_append_blanks {blanks : Text} (blank : ∀ c ∈ blanks, isBlank c) (text : Text) :
    trim (text ++ blanks) = trim text := by
  induction blanks generalizing text with
  | nil => rw [List.append_nil]
  | cons c rest ih =>
      rw [List.forall_mem_cons] at blank
      rw [List.append_cons, ih blank.2, trim_append_singleton blank.1]

theorem Pads.trim_eq {line padded : Text} (pads : Pads line padded) : trim padded = trim line := by
  obtain ⟨before, after, blank, blankBehind, rfl⟩ := pads
  rw [trim_append_blanks blankBehind, trim, trimStart_append blank, trim]

theorem trim_eq_trim_iff {line other : Text} :
    trim line = trim other ↔ ∃ core, Pads core line ∧ Pads core other := by
  constructor
  · intro same
    exact ⟨trim line, pads_trim line, same ▸ pads_trim other⟩
  · intro padded
    obtain ⟨core, pads, padsOther⟩ := padded
    exact pads.trim_eq.trans padsOther.trim_eq.symm

/-- A text is left as it is where no blank stands at either end of it. -/
theorem trim_eq_self_iff {text : Text} :
    trim text = text ↔
      (∀ c ∈ text.head?, isBlank c = false) ∧ ∀ c ∈ text.getLast?, isBlank c = false := by
  constructor
  · intro same
    rw [← same]
    exact ⟨isBlank_head?_trim text, isBlank_getLast?_trim text⟩
  · intro dark
    obtain ⟨before, after, blank, blankBehind, parts⟩ := pads_trim text
    have nothing : before = [] := by
      cases before with
      | nil => rfl
      | cons c more =>
          have first : text.head? = some c := by
            rw [parts]
            rfl
          simpa [blank] using dark.1 c first
    have nothingBehind : after = [] := by
      cases after using List.reverseRecOn with
      | nil => rfl
      | append_singleton more c =>
          have last : text.getLast? = some c := by
            rw [parts, ← List.append_assoc]
            exact List.getLast?_concat
          simpa [blankBehind] using dark.2 c last
    rw [nothing, nothingBehind, List.nil_append, List.append_nil] at parts
    exact parts.symm

/-- A text that does not begin with a blank begins as it does when it is trimmed. -/
theorem head?_trim {c : Char} (dark : isBlank c = false) (rest : Text) :
    (trim (c :: rest)).head? = some c := by
  obtain ⟨before, after, blank, blankBehind, parts⟩ := pads_trim (c :: rest)
  cases before with
  | cons first more =>
      obtain ⟨rfl, _⟩ := List.cons.inj parts
      simp [blank] at dark
  | nil =>
      cases trimmed : trim (c :: rest) with
      | nil =>
          rw [trimmed, List.nil_append, List.nil_append] at parts
          have member : c ∈ after := parts ▸ List.mem_cons_self
          simp [blankBehind c member] at dark
      | cons first more =>
          rw [trimmed] at parts
          rw [(List.cons.inj parts).1]
          rfl

theorem sameButMargins_iff {first second : Text} :
    SameButMargins first second ↔ (lines first).map trim = (lines second).map trim := by
  rw [← List.forall₂_eq_eq_eq, List.forall₂_map_left_iff, List.forall₂_map_right_iff,
    SameButMargins]
  simp only [trim_eq_trim_iff]

end EnergyReport.Text
