import EnergyReport.Markup.Inline
import Mathlib.Data.List.Basic

namespace EnergyReport.Markup

/-! How the strong and the emphasized parts of a line lie in each other.

Where each mark is opened and closed in turn, there is only one way in which the parts do not nest:
one of them begins in another and ends outside of it. -/

/-- Whether a mark is open after an atom. An open mark cannot be opened, nor a closed one closed. -/
def Atom.turn (mark : Mark) (isOpen : Bool) : Atom → Option Bool
  | .opening other => if other = mark then if isOpen then none else some true else some isOpen
  | .closing other => if other = mark then if isOpen then some false else none else some isOpen
  | .char _ => some isOpen
  | .badge _ => some isOpen

def openAfter (mark : Mark) (isOpen : Bool) (atoms : List Atom) : Option Bool :=
  atoms.foldlM (Atom.turn mark) isOpen

/-- Whether a mark is opened and closed in turn, and closed at the end. -/
def Alternates (mark : Mark) (atoms : List Atom) : Prop :=
  openAfter mark false atoms = some false

/-- Whether atoms close the open marks and all that they open, each at its place. -/
def nestedIn : List Mark → List Atom → Bool
  | opened, [] => opened.isEmpty
  | opened, .opening mark :: rest => nestedIn (mark :: opened) rest
  | [], .closing _ :: _ => false
  | innermost :: opened, .closing mark :: rest => innermost = mark && nestedIn opened rest
  | opened, .char _ :: rest => nestedIn opened rest
  | opened, .badge _ :: rest => nestedIn opened rest

/-- A part of one mark begins in a part of the other and ends outside of it. -/
def Crossing (atoms : List Atom) : Prop :=
  ∃ outer inner above between inside below, outer ≠ inner ∧
    atoms = above ++ .opening outer :: between ++ .opening inner :: inside ++
      .closing outer :: below ∧
    .closing outer ∉ between ++ inside ∧ .closing inner ∉ inside

/-- Whether a mark does not occur among atoms. -/
def IsFree (mark : Mark) (atoms : List Atom) : Prop :=
  .opening mark ∉ atoms ∧ .closing mark ∉ atoms

section Turns

variable {mark : Mark} {isOpen stillOpen : Bool} {atoms first second : List Atom}

@[simp] theorem openAfter_nil (mark : Mark) (isOpen : Bool) :
    openAfter mark isOpen [] = some isOpen :=
  rfl

@[simp] theorem openAfter_cons (mark : Mark) (isOpen : Bool) (atom : Atom) (rest : List Atom) :
    openAfter mark isOpen (atom :: rest) =
      (atom.turn mark isOpen).bind fun isOpen => openAfter mark isOpen rest :=
  rfl

theorem openAfter_append (mark : Mark) (isOpen : Bool) (first second : List Atom) :
    openAfter mark isOpen (first ++ second) =
      (openAfter mark isOpen first).bind fun isOpen => openAfter mark isOpen second := by
  simp [openAfter, List.foldlM_append]

theorem turn_of_ne {atom : Atom} (notOpening : atom ≠ .opening mark)
    (notClosing : atom ≠ .closing mark) (isOpen : Bool) : atom.turn mark isOpen = some isOpen := by
  cases atom <;> simp_all [Atom.turn]

theorem IsFree.openAfter (free : IsFree mark atoms) (isOpen : Bool) :
    openAfter mark isOpen atoms = some isOpen := by
  induction atoms with
  | nil => rfl
  | cons atom rest ih =>
      simp only [IsFree, List.mem_cons, not_or] at free
      obtain ⟨⟨notOpening, noOpening⟩, notClosing, noClosing⟩ := free
      rw [openAfter_cons, turn_of_ne (Ne.symm notOpening) (Ne.symm notClosing), Option.bind_some]
      exact ih ⟨noOpening, noClosing⟩

theorem isFree_of_not_closed (opened : openAfter mark true atoms = some stillOpen)
    (unclosed : .closing mark ∉ atoms) : IsFree mark atoms := by
  induction atoms with
  | nil => simp [IsFree]
  | cons atom rest ih =>
      simp only [List.mem_cons, not_or] at unclosed
      have notOpening : atom ≠ .opening mark := by
        intro isOpening
        simp [isOpening, Atom.turn] at opened
      rw [openAfter_cons, turn_of_ne notOpening (Ne.symm unclosed.1), Option.bind_some] at opened
      have free := ih opened unclosed.2
      exact ⟨by simp [free.1, Ne.symm notOpening], by simp [free.2, unclosed.1]⟩

section Unclosed

variable {inside : List Atom}
  (alternates : Alternates mark (first ++ .opening mark :: inside ++ second))
  (unclosed : .closing mark ∉ inside)

include alternates unclosed

theorem Alternates.isFree : IsFree mark inside := by
  rw [Alternates, List.append_assoc, openAfter_append, Option.bind_eq_some_iff] at alternates
  obtain ⟨isOpen, _, opened⟩ := alternates
  rw [List.cons_append, openAfter_cons, Option.bind_eq_some_iff] at opened
  obtain ⟨nowOpen, turned, opened⟩ := opened
  have opens : nowOpen = true := by
    cases isOpen <;> simp_all [Atom.turn]
  rw [opens, openAfter_append, Option.bind_eq_some_iff] at opened
  obtain ⟨_, opened, _⟩ := opened
  exact isFree_of_not_closed opened unclosed

theorem Alternates.openAfter_unclosed :
    openAfter mark false (first ++ .opening mark :: inside) = some true := by
  have free := alternates.isFree unclosed
  rw [Alternates, List.append_assoc, openAfter_append, Option.bind_eq_some_iff] at alternates
  obtain ⟨isOpen, before, opened⟩ := alternates
  rw [openAfter_append, before, Option.bind_some, openAfter_cons]
  cases isOpen <;> simp_all [Atom.turn, free.openAfter]

end Unclosed

end Turns

/-! ### Crossing parts do not nest -/

section Crossed

variable {opened : List Mark} {atoms first second : List Atom}

theorem nestedIn_append_of_isFree (free : ∀ mark, IsFree mark first) (opened : List Mark)
    (second : List Atom) : nestedIn opened (first ++ second) = nestedIn opened second := by
  induction first with
  | nil => rfl
  | cons atom rest ih =>
      have others : ∀ mark, IsFree mark rest := fun mark =>
        ⟨fun member => (free mark).1 (by simp [member]),
          fun member => (free mark).2 (by simp [member])⟩
      cases atom with
      | char c => simpa [nestedIn] using ih others
      | badge badge => simpa [nestedIn] using ih others
      | opening mark => exact absurd (by simp) (free mark).1
      | closing mark => exact absurd (by simp) (free mark).2

theorem exists_nestedIn_of_append (nested : nestedIn opened (first ++ second)) :
    ∃ opened, nestedIn opened second := by
  induction first generalizing opened with
  | nil => exact ⟨opened, nested⟩
  | cons atom rest ih =>
      cases atom with
      | opening mark => exact ih nested
      | closing mark =>
          cases opened with
          | nil => contradiction
          | cons innermost opened =>
              simp only [List.cons_append, nestedIn, Bool.and_eq_true] at nested
              exact ih nested.2
      | char c => exact ih nested
      | badge badge => exact ih nested

theorem eq_or_eq_of_ne {mark other : Mark} (different : mark ≠ other) (third : Mark) :
    third = mark ∨ third = other := by
  cases mark <;> cases other <;> cases third <;> simp_all

theorem not_nestedIn_of_crossing (alternates : ∀ mark, Alternates mark atoms)
    (crossing : Crossing atoms) : ¬ nestedIn [] atoms := by
  obtain ⟨outer, inner, above, between, inside, below, different, whole, notOuter, notInner⟩ :=
    crossing
  rw [List.mem_append, not_or] at notOuter
  have atOuter : atoms = above ++ .opening outer :: (between ++ .opening inner :: inside) ++
      .closing outer :: below := by simp [whole]
  have atInner : atoms = (above ++ .opening outer :: between) ++ .opening inner :: inside ++
      .closing outer :: below := by simp [whole]
  have noClosing : .closing outer ∉ between ++ .opening inner :: inside := by simp [notOuter]
  have freeOuter := (atOuter ▸ alternates outer).isFree noClosing
  have freeInner := (atInner ▸ alternates inner).isFree notInner
  -- Neither mark occurs in `inside`, so the walk closes the outer one while the inner one is open.
  have unmarked : ∀ mark, IsFree mark inside := by
    intro mark
    cases eq_or_eq_of_ne different mark with
    | inl isOuter =>
        simp only [IsFree, List.mem_append, List.mem_cons, not_or] at freeOuter
        exact isOuter ▸ ⟨freeOuter.1.2.2, freeOuter.2.2.2⟩
    | inr isInner => exact isInner ▸ freeInner
  intro nested
  rw [atInner, List.append_assoc] at nested
  obtain ⟨opened, nested⟩ := exists_nestedIn_of_append nested
  rw [List.cons_append, nestedIn, nestedIn_append_of_isFree unmarked, nestedIn] at nested
  simp [Ne.symm different] at nested

end Crossed

/-! ### Parts that do not cross nest -/

/-- The open marks behind some atoms, the innermost first. Since one of them was opened, neither
it nor a mark around it has been closed. -/
inductive Opened : List Mark → List Atom → Prop where
  | none (above : List Atom) : Opened [] above
  | inside {mark : Mark} {around : List Mark} {above inside : List Atom}
      (opened : Opened around above) (closed : mark ∉ around)
      (unclosed : ∀ other ∈ mark :: around, .closing other ∉ inside) :
      Opened (mark :: around) (above ++ .opening mark :: inside)

namespace Opened

variable {mark : Mark} {marks : List Mark} {above : List Atom}

theorem append (opened : Opened marks above) {more : List Atom}
    (unclosed : ∀ mark ∈ marks, .closing mark ∉ more) : Opened marks (above ++ more) := by
  cases opened with
  | none => exact .none _
  | inside opened closed here =>
      rw [List.append_assoc, List.cons_append]
      refine .inside opened closed fun other among => ?_
      rw [List.mem_append, not_or]
      exact ⟨here other among, unclosed other among⟩

theorem opening (opened : Opened marks above) (closed : mark ∉ marks) :
    Opened (mark :: marks) (above ++ [.opening mark]) :=
  .inside opened closed (by simp)

theorem closing (opened : Opened (mark :: marks) above) :
    Opened marks (above ++ [.closing mark]) := by
  cases opened with
  | inside opened closed unclosed =>
      rw [List.append_assoc, List.cons_append]
      apply opened.append
      intro other among
      have different : other ≠ mark := fun same => closed (same ▸ among)
      simp [unclosed other (List.mem_cons_of_mem mark among), different]

theorem not_mem (opened : Opened (mark :: marks) above) : mark ∉ marks := by
  cases opened with
  | inside _ closed _ => exact closed

theorem exists_opening (opened : Opened marks above) (among : mark ∈ marks) :
    ∃ before inside, above = before ++ .opening mark :: inside ∧ .closing mark ∉ inside := by
  induction opened with
  | none => contradiction
  | @inside innermost around above inside opened closed unclosed ih =>
      rcases List.mem_cons.mp among with rfl | around
      · exact ⟨above, inside, rfl, unclosed mark (by simp)⟩
      · obtain ⟨before, between, rfl, notClosed⟩ := ih around
        refine ⟨before, between ++ .opening innermost :: inside, by simp, ?_⟩
        simp [notClosed, unclosed mark among]

/-- Parts cross where a mark is closed inside of another one. -/
theorem crossing {innermost : Mark} (opened : Opened (innermost :: marks) above)
    (among : mark ∈ marks) (rest : List Atom) : Crossing (above ++ .closing mark :: rest) := by
  have different : mark ≠ innermost := fun same => opened.not_mem (same ▸ among)
  cases opened with
  | inside opened closed unclosed =>
      rename_i inside
      obtain ⟨before, between, rfl, notClosed⟩ := opened.exists_opening among
      refine ⟨mark, innermost, before, between, inside, rest, different, by simp, ?_, ?_⟩
      · simp [notClosed, unclosed mark (List.mem_cons_of_mem _ among)]
      · exact unclosed innermost (by simp)

end Opened

theorem nestedIn_of_opened {marks : List Mark} {above rest : List Atom}
    (opened : Opened marks above)
    (alternates : ∀ mark, openAfter mark (mark ∈ marks) rest = some false)
    (uncrossed : ¬ Crossing (above ++ rest)) : nestedIn marks rest := by
  -- What has been read moves from `rest` to `above`, where `Opened` keeps track of the marks.
  induction rest generalizing marks above with
  | nil =>
      cases marks with
      | nil => rfl
      | cons mark marks => simpa using alternates mark
  | cons atom rest ih =>
      have further : above ++ atom :: rest = above ++ [atom] ++ rest := by simp
      cases atom with
      | char c =>
          rw [further] at uncrossed
          exact ih (opened.append (by simp)) alternates uncrossed
      | badge badge =>
          rw [further] at uncrossed
          exact ih (opened.append (by simp)) alternates uncrossed
      | opening mark =>
          have closed : mark ∉ marks := by
            intro among
            simpa [Atom.turn, among] using alternates mark
          rw [further] at uncrossed
          refine ih (opened.opening closed) (fun other => ?_) uncrossed
          have turned := alternates other
          by_cases same : mark = other
          · subst same
            simpa [Atom.turn, closed] using turned
          · simpa [Atom.turn, same, Ne.symm same] using turned
      | closing mark =>
          have among : mark ∈ marks := by
            by_contra closed
            simpa [Atom.turn, closed] using alternates mark
          cases marks with
          | nil => contradiction
          | cons innermost marks =>
              by_cases same : innermost = mark
              · subst same
                rw [further] at uncrossed
                have nested : nestedIn marks rest := by
                  refine ih opened.closing (fun other => ?_) uncrossed
                  have turned := alternates other
                  have closed := opened.not_mem
                  by_cases same : innermost = other
                  · subst same
                    simpa [Atom.turn, closed] using turned
                  · simpa [Atom.turn, same, Ne.symm same] using turned
                simp [nestedIn, nested]
              · have around : mark ∈ marks := by simpa [Ne.symm same] using among
                exact absurd (opened.crossing around rest) uncrossed

theorem nestedIn_iff_not_crossing {atoms : List Atom}
    (alternates : ∀ mark, Alternates mark atoms) : nestedIn [] atoms ↔ ¬ Crossing atoms := by
  constructor
  · intro nested crossing
    exact not_nestedIn_of_crossing alternates crossing nested
  · intro uncrossed
    exact nestedIn_of_opened (.none []) (by simpa [Alternates] using alternates) uncrossed

end EnergyReport.Markup
