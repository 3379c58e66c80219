import EnergyReport.Proofs.Text.Basic
import Mathlib.Data.List.DropRight
import Mathlib.Data.List.Forall2

namespace EnergyReport.Text

/-! Texts in which a carriage return stands before every line feed.

A recogniser that looks for neither of the two finds in such a text what it finds in the text
without the returns. -/

/-- The text with a carriage return before each line feed. -/
def crlf (text : Text) : Text :=
  text.flatMap fun c => if c = '\n' then ['\r', '\n'] else [c]

@[simp] theorem crlf_nil : crlf [] = [] := rfl

@[simp] theorem crlf_newline (rest : Text) : crlf ('\n' :: rest) = '\r' :: '\n' :: crlf rest := rfl

theorem crlf_cons {c : Char} (other : c ≠ '\n') (rest : Text) :
    crlf (c :: rest) = c :: crlf rest := by
  simp [crlf, other]

theorem crlf_append (first second : Text) : crlf (first ++ second) = crlf first ++ crlf second := by
  simp [crlf]

theorem crlf_ne_nil {text : Text} (nonempty : text ≠ []) : crlf text ≠ [] := by
  obtain ⟨c, rest, rfl⟩ := List.exists_cons_of_ne_nil nonempty
  by_cases feed : c = '\n'
  · simp [feed]
  · simp [crlf_cons feed]

theorem crlf_of_not_mem {text : Text} (oneLine : '\n' ∉ text) : crlf text = text := by
  induction text with
  | nil => rfl
  | cons c rest ih =>
      simp only [List.mem_cons, not_or] at oneLine
      rw [crlf_cons (Ne.symm oneLine.1), ih oneLine.2]

/-- A text without line ends. -/
def Unbroken (text : Text) : Prop :=
  '\r' ∉ text ∧ '\n' ∉ text

instance (text : Text) : Decidable (Unbroken text) :=
  inferInstanceAs (Decidable (_ ∧ _))

theorem Unbroken.cons {c : Char} {rest : Text} (unbroken : Unbroken (c :: rest)) :
    ('\r' ≠ c ∧ '\n' ≠ c) ∧ Unbroken rest := by
  simp only [Unbroken, List.mem_cons, not_or] at unbroken ⊢
  exact ⟨⟨unbroken.1.1, unbroken.2.1⟩, unbroken.1.2, unbroken.2.2⟩

section Recognisers

variable {text : Text}

theorem strip?_crlf {expected : Text} (unbroken : Unbroken expected) (text : Text) :
    strip? expected (crlf text) = (strip? expected text).map crlf := by
  induction expected generalizing text with
  | nil => rfl
  | cons e more ih =>
      obtain ⟨⟨notReturn, notFeed⟩, others⟩ := unbroken.cons
      cases text with
      | nil => rfl
      | cons c rest =>
          by_cases feed : c = '\n'
          · simp [feed, strip?, notReturn, notFeed]
          · rw [crlf_cons feed, strip?, strip?]
            split
            · exact ih others rest
            · rfl

theorem stripWord?_crlf {word : Text} (unbroken : Unbroken word) (text : Text) :
    stripWord? word (crlf text) = (stripWord? word text).map crlf := by
  have folded : foldCase '\r' = '\r' ∧ foldCase '\n' = '\n' := by decide
  induction word generalizing text with
  | nil => rfl
  | cons letter more ih =>
      obtain ⟨⟨notReturn, notFeed⟩, others⟩ := unbroken.cons
      cases text with
      | nil => rfl
      | cons c rest =>
          by_cases feed : c = '\n'
          · simp [feed, stripWord?, folded, notReturn, notFeed]
          · rw [crlf_cons feed, stripWord?, stripWord?]
            split
            · exact ih others rest
            · rfl

theorem dropWhile_crlf {holds : Char → Bool} (alike : holds '\r' = holds '\n') (text : Text) :
    (crlf text).dropWhile holds = crlf (text.dropWhile holds) := by
  induction text with
  | nil => rfl
  | cons c rest ih =>
      by_cases feed : c = '\n'
      · cases passes : holds '\n' with
        | true => simp [feed, alike, passes, ih]
        | false => simp [feed, alike, passes]
      · rw [crlf_cons feed]
        cases passes : holds c with
        | true => simp [passes, ih]
        | false => simp [passes, crlf_cons feed]

theorem trimStart_crlf (text : Text) : trimStart (crlf text) = crlf (trimStart text) :=
  dropWhile_crlf (by decide) text

/-- What stands around the first occurrence of a text. -/
theorem cut?_crlf {needle : Text} (nonempty : needle ≠ []) (unbroken : Unbroken needle)
    (text : Text) :
    cut? needle (crlf text) = (cut? needle text).map (Prod.map crlf crlf) := by
  obtain ⟨e, more, rfl⟩ := List.exists_cons_of_ne_nil nonempty
  obtain ⟨⟨notReturn, notFeed⟩, _⟩ := unbroken.cons
  induction text with
  | nil => simp [cut?]
  | cons c rest ih =>
      by_cases feed : c = '\n'
      -- the needle begins with neither of the two characters of a line end
      · simp only [feed, crlf_newline, cut?, strip?, notReturn, notFeed, if_false, ih,
          Option.map_map]
        rfl
      · have here := strip?_crlf unbroken (c :: rest)
        rw [crlf_cons feed] at here ⊢
        rw [cut?, cut?, here]
        cases strip? (e :: more) (c :: rest) with
        | some after => rfl
        | none =>
            simp only [Option.map_none, ih, Option.map_map]
            congr 1
            funext parts
            simp [crlf_cons feed]

theorem firstMatch_crlf {α : Type} {recognise : Text → Option α}
    (same : ∀ place, recognise (crlf place) = recognise place)
    (passes : ∀ rest, recognise ('\n' :: rest) = none) (text : Text) :
    firstMatch recognise (crlf text) = firstMatch recognise text := by
  induction text with
  | nil => rfl
  | cons c rest ih =>
      have here := same (c :: rest)
      by_cases feed : c = '\n'
      · subst feed
        rw [crlf_newline, passes] at here
        simp only [crlf_newline, firstMatch, here, passes, ih]
      · rw [crlf_cons feed] at here ⊢
        rw [firstMatch, firstMatch, here, ih]

end Recognisers

/-! ### Trimming -/

/-- A blank after a text is trimmed, whatever the text ends with. -/
theorem trim_append_singleton {blank : Char} (isBlank : Text.isBlank blank) (text : Text) :
    trim (text ++ [blank]) = trim text := by
  rw [trim, trim, trimStart, List.dropWhile_append]
  split
  case isTrue empty =>
      have none : trimStart text = [] := List.isEmpty_iff.mp empty
      simp [none, isBlank]
  case isFalse => exact trimEnd_append_blank isBlank

theorem trimEnd_eq_rdropWhile (text : Text) : trimEnd text = text.rdropWhile isBlank := rfl

theorem trimStart_trimEnd_trimStart (text : Text) :
    trimStart (trimEnd (trimStart text)) = trimEnd (trimStart text) := by
  have head := List.head?_dropWhile_not isBlank text
  cases begun : trimStart text with
  | nil => rfl
  | cons c rest =>
      rw [trimStart] at begun
      rw [begun] at head
      have dark : isBlank c = false := by simpa using head
      rw [trimEnd_eq_rdropWhile]
      obtain ⟨left, whole⟩ := List.rdropWhile_prefix isBlank (c :: rest)
      cases kept : (c :: rest).rdropWhile isBlank with
      | nil => rfl
      | cons first more =>
          rw [kept, List.cons_append, List.cons.injEq] at whole
          rw [whole.1, trimStart_cons dark]

@[simp] theorem trim_trim (text : Text) : trim (trim text) = trim text := by
  have ended : trimEnd (trimEnd (trimStart text)) = trimEnd (trimStart text) := by
    simp [trimEnd, List.dropWhile_idempotent]
  rw [trim, trim, trimStart_trimEnd_trimStart, ended]

theorem isBlank_head?_trim (text : Text) : ∀ c ∈ (trim text).head?, isBlank c = false := by
  have head := List.head?_dropWhile_not isBlank (trim text)
  have trimmed : (trim text).dropWhile isBlank = trim text := trimStart_trimEnd_trimStart text
  rw [trimmed] at head
  intro c first
  rw [Option.mem_def] at first
  simpa [first] using head

theorem isBlank_getLast?_trim (text : Text) : ∀ c ∈ (trim text).getLast?, isBlank c = false := by
  have head := List.head?_dropWhile_not isBlank (trimStart text).reverse
  intro c last
  rw [trim, trimEnd, List.getLast?_reverse, Option.mem_def] at last
  simpa [last] using head

theorem trim_eq_nil_iff {text : Text} : trim text = [] ↔ ∀ c ∈ text, isBlank c := by
  constructor
  · intro empty
    obtain ⟨blanks, blank, parts⟩ := exists_blanks_append_trimStart text
    rw [trim, trimEnd, List.reverse_eq_nil_iff, List.dropWhile_eq_nil_iff] at empty
    intro c member
    rw [parts, List.mem_append] at member
    cases member with
    | inl inBlanks => exact blank c inBlanks
    | inr inRest => exact empty c (List.mem_reverse.mpr inRest)
  · intro blank
    have nothing : trimStart text = [] := List.dropWhile_eq_nil_iff.mpr blank
    rw [trim, nothing]
    rfl

/-! ### Lines -/

theorem takeWhile_line {line : Text} (oneLine : '\n' ∉ line) (rest : Text) :
    (line ++ '\n' :: rest).takeWhile (· ≠ '\n') = line ∧ line.takeWhile (· ≠ '\n') = line := by
  have within : ∀ c ∈ line, decide (c ≠ '\n') = true := by
    intro c member
    rw [decide_eq_true_eq]
    rintro rfl
    exact oneLine member
  rw [List.takeWhile_append_of_pos within]
  exact ⟨by simp, List.takeWhile_eq_self_iff.mpr within⟩

/-- A line that may have kept the return of its line end. -/
def Ended (line' line : Text) : Prop :=
  line' = line ∨ line' = line ++ ['\r']

theorem Ended.cons {line' line : Text} (ended : Ended line' line) (c : Char) :
    Ended (c :: line') (c :: line) := by
  rcases ended with rfl | rfl
  · exact .inl rfl
  · exact .inr rfl

/-- The lines are those of the text without the returns, with returns at their ends. -/
theorem lines_crlf {ending : Text} (ends : ending = [] ∨ ending = ['\r']) (text : Text) :
    List.Forall₂ Ended (lines (crlf text ++ ending)) (lines text) := by
  induction text with
  | nil =>
      rcases ends with rfl | rfl
      · exact .cons (.inl rfl) .nil
      · exact .cons (.inr rfl) .nil
  | cons c rest ih =>
      by_cases feed : c = '\n'
      · have blank : lines ('\n' :: rest) = [] :: lines rest := lines_append_newline [] rest
        have returned : lines ('\r' :: '\n' :: (crlf rest ++ ending)) =
            ['\r'] :: lines (crlf rest ++ ending) := lines_append_newline ['\r'] _
        rw [feed, crlf_newline, List.cons_append, List.cons_append, returned, blank]
        exact .cons (.inr rfl) ih
      · obtain ⟨first, others, parts⟩ := List.exists_cons_of_ne_nil (splitOn_ne_nil '\n' rest)
        obtain ⟨first', others', parts'⟩ :=
          List.exists_cons_of_ne_nil (splitOn_ne_nil '\n' (crlf rest ++ ending))
        rw [lines, lines, parts, parts', List.forall₂_cons] at ih
        rw [crlf_cons feed, List.cons_append, lines, lines, splitOn, splitOn, if_neg feed,
          if_neg feed, parts, parts']
        exact .cons (ih.1.cons c) ih.2

theorem Ended.trim {line' line : Text} (ended : Ended line' line) :
    Text.trim line' = Text.trim line := by
  rcases ended with rfl | rfl
  · rfl
  · exact trim_append_singleton (by decide) line

theorem map_trim_lines_crlf {ending : Text} (ends : ending = [] ∨ ending = ['\r']) (text : Text) :
    (lines (crlf text ++ ending)).map trim = (lines text).map trim := by
  rw [← List.forall₂_eq_eq_eq, List.forall₂_map_left_iff, List.forall₂_map_right_iff]
  exact (lines_crlf ends text).imp fun _ _ ended => ended.trim

end EnergyReport.Text
