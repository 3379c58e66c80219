import EnergyReport.Text.Basic
import Mathlib.Data.List.Basic

namespace EnergyReport.Text

/-! Texts put into another one, each at its place.

Every character of the whole tells where it comes from. What is put in can be taken out again,
whatever it looks like. -/

inductive Origin where
  | own
  | added
  deriving Repr, DecidableEq

/-- A text with `additions place` put in at each place: before the character there, or behind the
last one. -/
def splice (additions : Nat → Text) : Text → List (Char × Origin)
  | [] => (additions 0).map fun c => (c, .added)
  | c :: rest =>
      ((additions 0).map fun added => (added, .added)) ++
        (c, .own) :: splice (fun place => additions (place + 1)) rest

/-- The characters of a text with others put in. -/
def spliced (additions : Nat → Text) (text : Text) : Text :=
  (splice additions text).map Prod.fst

/-- What is left of characters when those that were put in are deleted. -/
def ownText (whole : List (Char × Origin)) : Text :=
  (whole.filter fun part => part.2 = .own).map Prod.fst

theorem ownText_added_append (addition : Text) (whole : List (Char × Origin)) :
    ownText ((addition.map fun c => (c, .added)) ++ whole) = ownText whole := by
  simp [ownText, List.filter_append, List.filter_map, Function.comp_def]

theorem ownText_splice (additions : Nat → Text) (text : Text) :
    ownText (splice additions text) = text := by
  induction text generalizing additions with
  | nil =>
      rw [splice, ← List.append_nil (List.map _ _), ownText_added_append]
      rfl
  | cons c rest ih =>
      rw [splice, ownText_added_append]
      have following := ih fun place => additions (place + 1)
      rw [ownText] at following
      simp [ownText, following]

theorem spliced_nil (additions : Nat → Text) : spliced additions [] = additions 0 := by
  simp [spliced, splice, Function.comp_def]

theorem spliced_cons (additions : Nat → Text) (c : Char) (rest : Text) :
    spliced additions (c :: rest) =
      additions 0 ++ c :: spliced (fun place => additions (place + 1)) rest := by
  simp [spliced, splice, Function.comp_def]

theorem spliced_of_nowhere {additions : Nat → Text} (nowhere : ∀ place, additions place = [])
    (text : Text) : spliced additions text = text := by
  induction text generalizing additions with
  | nil => rw [spliced_nil, nowhere]
  | cons c rest ih =>
      rw [spliced_cons, nowhere, ih fun place => nowhere (place + 1), List.nil_append]

theorem spliced_append {additions : Nat → Text} {above addition : Text}
    (one : ∀ place, additions place = if place = above.length then addition else [])
    (below : Text) : spliced additions (above ++ below) = above ++ addition ++ below := by
  induction above generalizing additions with
  | nil =>
      cases below with
      | nil => simp [spliced_nil, one]
      | cons c rest =>
          have later : ∀ place, additions (place + 1) = [] := fun place => by simp [one]
          rw [List.nil_append, spliced_cons, spliced_of_nowhere later, one]
          rfl
  | cons c above ih =>
      have later : ∀ place, additions (place + 1) =
          if place = above.length then addition else [] := fun place => by simp [one]
      rw [List.cons_append, spliced_cons, ih later, one]
      rfl

/-- Two texts that are put in where the same characters stand follow each other. -/
theorem spliced_append_append {additions : Nat → Text} {above between first second : Text}
    (two : ∀ place, additions place =
      (if place = above.length then first else []) ++
        if place = above.length + between.length then second else [])
    (below : Text) :
    spliced additions (above ++ (between ++ below)) =
      above ++ first ++ (between ++ second ++ below) := by
  induction above generalizing additions with
  | nil =>
      cases between with
      | nil =>
          have both : ∀ place, additions place =
              if place = ([] : Text).length then first ++ second else [] := by
            intro place
            rw [two]
            split <;> simp_all
          simpa using spliced_append both below
      | cons c between =>
          have later : ∀ place, additions (place + 1) =
              if place = between.length then second else [] := fun place => by simp [two]
          rw [List.nil_append, List.cons_append, spliced_cons, spliced_append later, two]
          simp
  | cons c above ih =>
      have later : ∀ place, additions (place + 1) =
          (if place = above.length then first else []) ++
            if place = above.length + between.length then second else [] := by
        intro place
        simp [two, Nat.add_right_comm]
      rw [List.cons_append, spliced_cons, ih later, two, if_neg (by simp),
        if_neg (by rw [List.length_cons]; omega)]
      rfl

end EnergyReport.Text
