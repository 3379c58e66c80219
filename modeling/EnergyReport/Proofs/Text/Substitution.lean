import EnergyReport.Text.Basic
import Mathlib.Data.List.Basic

namespace EnergyReport.Text

/-! What a substitution does, part by part. -/

section Substitution

variable {α β : Type} {recognise : Option α → List α → Option (List β × List α)} {copy : α → β}

/-- A list after some element, and what is made of it: parts that are recognised are replaced, and
the elements between them are copied. -/
inductive Substitution (recognise : Option α → List α → Option (List β × List α)) (copy : α → β) :
    Option α → List α → List β → Prop where
  | nil {before : Option α} : Substitution recognise copy before [] []
  | copied {before : Option α} {a : α} {rest : List α} {result : List β}
      (missed : recognise before (a :: rest) = none)
      (following : Substitution recognise copy (some a) rest result) :
      Substitution recognise copy before (a :: rest) (copy a :: result)
  | replaced {before : Option α} {part rest : List α} {replacement result : List β}
      (nonempty : part ≠ [])
      (found : recognise before (part ++ rest) = some (replacement, rest))
      (following : Substitution recognise copy part.getLast? rest result) :
      Substitution recognise copy before (part ++ rest) (replacement ++ result)

/-- Whether what is recognised is a part at the beginning, and what is left follows it. -/
def TakesPart (recognise : Option α → List α → Option (List β × List α)) : Prop :=
  ∀ before list replacement rest, recognise before list = some (replacement, rest) →
    ∃ part, part ≠ [] ∧ list = part ++ rest

theorem getLast?_cons_or (a : α) (part : List α) (before : Option α) :
    (a :: part).getLast?.or before = part.getLast?.or (some a) := by
  cases part <;> simp [List.getLast?_cons]

theorem substituteFrom_skip (before : Option α) (part rest : List α) :
    substituteFrom recognise copy before part.length (part ++ rest) =
      substituteFrom recognise copy (part.getLast?.or before) 0 rest := by
  induction part generalizing before with
  | nil => rfl
  | cons a part ih =>
      rw [List.length_cons, List.cons_append, substituteFrom, ih, getLast?_cons_or]

theorem substitution_substituteFrom (takesPart : TakesPart recognise) (before : Option α)
    (list : List α) :
    Substitution recognise copy before list (substituteFrom recognise copy before 0 list) := by
  -- A replacement goes on behind the part that it replaces, so the induction is on the length.
  induction length : list.length using Nat.strongRecOn generalizing before list with
  | ind n ih =>
    cases list with
    | nil => exact .nil
    | cons a tail =>
        rw [substituteFrom]
        cases found : recognise before (a :: tail) with
        | none => exact .copied found (ih tail.length (by simp [← length]) _ tail rfl)
        | some taken =>
            obtain ⟨replacement, rest⟩ := taken
            obtain ⟨part, nonempty, split⟩ := takesPart before _ replacement rest found
            obtain ⟨first, more, rfl⟩ := List.exists_cons_of_ne_nil nonempty
            rw [List.cons_append, List.cons.injEq] at split
            obtain ⟨rfl, rfl⟩ := split
            have skipped : (more ++ rest).length - rest.length = more.length := by simp
            simp only [skipped]
            rw [substituteFrom_skip, ← getLast?_cons_or a more none, Option.or_none]
            refine .replaced nonempty found (ih rest.length ?_ _ rest rfl)
            rw [← length, List.length_cons, List.length_append]
            omega

theorem substitution_substitute (takesPart : TakesPart recognise) (copy : α → β)
    (list : List α) :
    Substitution recognise copy none list (substitute recognise copy list) :=
  substitution_substituteFrom takesPart none list

end Substitution

end EnergyReport.Text
