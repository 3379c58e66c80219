import EnergyReport.Proofs.Text.Basic
import Mathlib.Data.List.Infix

namespace EnergyReport.Text

/-! Where a search ends up when something is put into the text. -/

section Cut

variable {needle text before after : Text}

theorem strip?_eq_none_iff : strip? needle text = none ↔ ¬ needle <+: text := by
  rw [Option.eq_none_iff_forall_ne_some]
  constructor
  · rintro missed ⟨rest, rfl⟩
    exact missed rest (strip?_append needle rest)
  · intro absent rest stripped
    exact absent ⟨rest, (strip?_eq_some_iff.mp stripped).symm⟩

theorem cut?_eq_some_iff :
    cut? needle text = some (before, after) ↔
      text = before ++ needle ++ after ∧ ∀ start < before.length, ¬ needle <+: text.drop start := by
  constructor
  · intro found
    refine ⟨eq_append_of_cut found, ?_⟩
    induction text generalizing before with
    | nil =>
        have empty := eq_append_of_cut found
        simp only [List.nil_eq, List.append_eq_nil_iff] at empty
        simp [empty.1.1]
    | cons c rest ih =>
        simp only [cut?] at found
        split at found
        · cases found
          simp
        · rename_i missed
          obtain ⟨⟨left, right⟩, inRest, same⟩ := Option.map_eq_some_iff.mp found
          cases same
          intro start earlier
          cases start with
          | zero => exact strip?_eq_none_iff.mp missed
          | succ start =>
              rw [List.drop_succ_cons]
              exact ih inRest start (by simpa using earlier)
  · rintro ⟨rfl, first⟩
    induction before with
    | nil =>
        rw [List.nil_append]
        cases needle with
        | nil => cases after <;> rfl
        | cons letter more =>
            rw [List.cons_append, cut?, ← List.cons_append, strip?_append]
    | cons c before ih =>
        have missed := strip?_eq_none_iff.mpr (first 0 (by simp))
        have later := ih fun start earlier => first (start + 1) (by simpa using earlier)
        rw [List.drop_zero, List.cons_append, List.cons_append] at missed
        rw [List.cons_append, List.cons_append, cut?, missed, later]
        rfl

theorem cut?_eq_none_iff : cut? needle text = none ↔ ¬ needle <:+: text := by
  induction text with
  | nil => by_cases empty : needle = [] <;> simp [cut?, empty]
  | cons c rest ih =>
      rw [List.infix_cons_iff, not_or, ← ih, ← strip?_eq_none_iff, cut?]
      cases strip? needle (c :: rest) <;> simp

theorem cut?_singleton_eq_some_iff {c : Char} :
    cut? [c] text = some (before, after) ↔ text = before ++ c :: after ∧ c ∉ before := by
  rw [cut?_eq_some_iff, List.append_assoc, List.singleton_append]
  refine and_congr_right fun split =>
    ⟨fun first member => ?_, fun absent start earlier stands => ?_⟩
  · obtain ⟨start, earlier, here⟩ := List.getElem_of_mem member
    apply first start earlier
    rw [split, List.drop_append_of_le_length (Nat.le_of_lt earlier),
      List.drop_eq_getElem_cons earlier, here, List.cons_append, List.cons_prefix_cons]
    exact ⟨rfl, List.nil_prefix⟩
  · rw [split, List.drop_append_of_le_length (Nat.le_of_lt earlier),
      List.drop_eq_getElem_cons earlier, List.cons_append, List.cons_prefix_cons] at stands
    exact absent (stands.1 ▸ List.getElem_mem earlier)

/-- What comes behind the first occurrence does not matter for it. -/
theorem cut?_append (found : cut? needle text = some (before, after)) (other : Text) :
    cut? needle (before ++ needle ++ other) = some (before, other) := by
  obtain ⟨rfl, first⟩ := cut?_eq_some_iff.mp found
  refine cut?_eq_some_iff.mpr ⟨rfl, fun start earlier stands => first start earlier ?_⟩
  have split (rest : Text) :
      (before ++ needle ++ rest).drop start = before.drop start ++ needle ++ rest := by
    rw [List.append_assoc, List.drop_append_of_le_length (Nat.le_of_lt earlier), List.append_assoc]
  rw [split] at stands ⊢
  have inFront : needle <+: before.drop start ++ needle :=
    List.prefix_of_prefix_length_le stands (List.prefix_append _ _) (by simp)
  exact inFront.trans (List.prefix_append _ _)

/-- Where nothing is found at the places of a front part, it is found behind it. -/
theorem cut?_append_left {front : Text}
    (nowhere : ∀ start < front.length, ¬ needle <+: (front ++ text).drop start) :
    cut? needle (front ++ text) =
      (cut? needle text).map fun (before, after) => (front ++ before, after) := by
  induction front with
  | nil => simp
  | cons c front ih =>
      have here := strip?_eq_none_iff.mpr (nowhere 0 (by simp))
      rw [List.drop_zero, List.cons_append] at here
      rw [List.cons_append, cut?, here, ih fun start within =>
        nowhere (start + 1) (by simpa using within)]
      simp [Function.comp_def]

/-- Where nothing is found at the places of a line, nor at its end, it is found behind it. -/
theorem cut?_append_cons {front : Text} {separator : Char}
    (nowhere : ∀ start ≤ front.length, ¬ needle <+: (front ++ separator :: text).drop start) :
    cut? needle (front ++ separator :: text) =
      (cut? needle text).map fun parts => (front ++ separator :: parts.1, parts.2) := by
  have split := List.append_cons front separator text
  rw [split, cut?_append_left fun start within => ?_]
  · simp
  · rw [← split]
    apply nowhere
    rw [List.length_append, List.length_singleton] at within
    omega

end Cut

section Infix

variable {needle : Text} {separator : Char}

theorem prefix_append_cons_iff (absent : separator ∉ needle) (first second : Text) :
    needle <+: first ++ separator :: second ↔ needle <+: first := by
  induction first generalizing needle with
  | nil =>
      cases needle with
      | nil => simp
      | cons letter more =>
          simp only [List.mem_cons, not_or] at absent
          simp [List.cons_prefix_cons, Ne.symm absent.1]
  | cons c first ih =>
      cases needle with
      | nil => simp
      | cons letter more =>
          simp only [List.mem_cons, not_or] at absent
          rw [List.cons_append, List.cons_prefix_cons, List.cons_prefix_cons, ih absent.2]

/-- What holds no separator stands before it or behind it. -/
theorem infix_append_cons_iff (absent : separator ∉ needle) (first second : Text) :
    needle <:+: first ++ separator :: second ↔ needle <:+: first ∨ needle <:+: second := by
  induction first with
  | nil =>
      have start := prefix_append_cons_iff absent [] second
      rw [List.nil_append] at start
      rw [List.nil_append, List.infix_cons_iff, start, List.prefix_nil, List.infix_nil]
  | cons c first ih =>
      have start := prefix_append_cons_iff absent (c :: first) second
      rw [List.cons_append] at start
      rw [List.cons_append, List.infix_cons_iff, ih, start, List.infix_cons_iff, or_assoc]

/-- Two places of a character in a text are the same one, or one stands before the other. -/
theorem append_cons_eq_append_cons {c : Char} {first second left right : Text}
    (same : first ++ c :: left = second ++ c :: right) :
    (first = second ∧ left = right) ∨
      (∃ middle, second = first ++ c :: middle ∧ left = middle ++ c :: right) ∨
      ∃ middle, first = second ++ c :: middle ∧ right = middle ++ c :: left := by
  rcases List.append_eq_append_iff.mp same with ⟨behind, longer, parts⟩ | ⟨behind, longer, parts⟩
  · cases behind with
    | nil => simp_all
    | cons next middle =>
        obtain ⟨rfl, rest⟩ := List.cons.inj parts
        exact .inr (.inl ⟨middle, longer, rest⟩)
  · cases behind with
    | nil => simp_all
    | cons next middle =>
        obtain ⟨rfl, rest⟩ := List.cons.inj parts
        exact .inr (.inr ⟨middle, longer, rest⟩)

end Infix

theorem firstMatch_append_left {α : Type} {recognise : Text → Option α} {front text : Text}
    (nowhere : ∀ start < front.length, recognise ((front ++ text).drop start) = none) :
    firstMatch recognise (front ++ text) = firstMatch recognise text := by
  induction front with
  | nil => rfl
  | cons c front ih =>
      have here := nowhere 0 (by simp)
      rw [List.drop_zero, List.cons_append] at here
      rw [List.cons_append, firstMatch, here]
      exact ih fun start within => nowhere (start + 1) (by simpa using within)

end EnergyReport.Text
