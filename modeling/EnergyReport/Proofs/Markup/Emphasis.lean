import EnergyReport.Proofs.Markup.Inline
import EnergyReport.Proofs.Markup.Nesting

namespace EnergyReport.Markup

/-! The tags that a line is formatted with.

Emphasized parts are found by their asterisks, wherever the strong parts begin and end. So a strong
and an emphasized part may cross, and nothing else can keep the tags of a line from nesting. -/

def Mark.tags (mark : Mark) : List Html.Tag :=
  [.opening mark.tag [], .closing mark.tag]

def Atom.tags : Atom → List Html.Tag
  | .char _ => []
  | .opening mark => [.opening mark.tag []]
  | .closing mark => [.closing mark.tag]
  | .badge priority => [.opening "span" [("class", priority.className)], .closing "span"]

/-- The tags of a written line. -/
def Inline.tags (badges : Badges) (text : Text) : List Html.Tag :=
  Html.tags (Html.tokens (Html.render (Inline.pieces badges text)).toList)

theorem Inline.tokens_render (badges : Badges) (text : Text) :
    Html.tokens (Html.render (Inline.pieces badges text)).toList =
      (Inline.pieces badges text).flatMap Html.Piece.tokens := by
  have safe : Document.AllSafe ⟨⟨0, 0, 0⟩, []⟩ (Inline.pieces badges text) :=
    Inline.safe_pieces badges text
  exact safe.tokens_render (by simp)

theorem Atom.tags_pieces (atom : Atom) :
    Html.tags (atom.pieces.flatMap Html.Piece.tokens) = atom.tags := by
  cases atom with
  | char c => simp [pieces, Html.Piece.tokens, tags]
  | opening mark => rfl
  | closing mark => rfl
  | badge badge => cases badge <;> decide +kernel

theorem Inline.tags_eq_flatMap (badges : Badges) (text : Text) :
    Inline.tags badges text = (Inline.atoms badges text).flatMap Atom.tags := by
  rw [Inline.tags, Inline.tokens_render, Inline.pieces]
  induction Inline.atoms badges text with
  | nil => rfl
  | cons atom rest ih =>
      rw [List.flatMap_cons, List.flatMap_append, Html.tags_append, ih, Atom.tags_pieces]
      rfl

/-- The element of a mark, while it is open. -/
def Mark.element (mark : Mark) : Html.OpenElement :=
  ⟨mark.tag, false⟩

theorem Mark.tag_ordinary (mark : Mark) : mark.tag ≠ Html.itemName ∧ mark.tag ∉ Html.listNames := by
  cases mark <;> decide

theorem Mark.tag_inj {mark other : Mark} : mark.tag = other.tag ↔ mark = other := by
  cases mark <;> cases other <;> decide

/-- The walk over the tags of atoms is the walk over the atoms. -/
theorem nestedIn_flatMap_tags (opened : List Mark) (atoms : List Atom) :
    Html.nestedIn (opened.map Mark.element) (atoms.flatMap Atom.tags) = nestedIn opened atoms := by
  induction atoms generalizing opened with
  | nil => cases opened <;> rfl
  | cons atom rest ih =>
      rw [List.flatMap_cons]
      cases atom with
      | char c => exact ih opened
      | opening mark =>
          have inside := ih (mark :: opened)
          rw [List.map_cons, Mark.element] at inside
          simp [Atom.tags, Html.nestedIn, nestedIn, Html.mayBegin_of_ne mark.tag_ordinary.1,
            Html.noteElement_of_ne mark.tag_ordinary.1, inside]
      | closing mark =>
          cases opened with
          | nil => rfl
          | cons innermost opened =>
              simp [Atom.tags, Html.nestedIn, nestedIn, Html.OpenElement.mayEnd, Mark.element,
                mark.tag_ordinary.2, Mark.tag_inj, ← ih opened]
      | badge priority =>
          have isOrdinary : "span" ≠ Html.itemName ∧ "span" ∉ Html.listNames := by decide
          simp [Atom.tags, Html.nestedIn, nestedIn, Html.mayBegin_of_ne isOrdinary.1,
            Html.noteElement_of_ne isOrdinary.1, Html.OpenElement.mayEnd, isOrdinary.2, ih opened]

/-! ### A line without one of its marks -/

/-- What is left of atoms when a mark is deleted. -/
def without (mark : Mark) (atoms : List Atom) : List Atom :=
  atoms.filter fun atom => atom ∉ [.opening mark, .closing mark]

theorem without_cons (mark : Mark) (atom : Atom) (rest : List Atom) :
    without mark (atom :: rest) =
      if atom ∈ [.opening mark, .closing mark] then without mark rest
      else atom :: without mark rest := by
  by_cases deleted : atom ∈ [.opening mark, .closing mark] <;>
    simp only [without, List.filter_cons, deleted, not_true, not_false_iff, decide_true,
      decide_false, if_true, if_false, Bool.false_eq_true]

theorem Atom.filter_tags (mark : Mark) (atom : Atom) :
    atom.tags.filter (· ∉ mark.tags) =
      if atom ∈ [.opening mark, .closing mark] then [] else atom.tags := by
  cases atom with
  | char c => rfl
  | opening other => by_cases same : other = mark <;> simp [tags, Mark.tags, Mark.tag_inj, same]
  | closing other => by_cases same : other = mark <;> simp [tags, Mark.tags, Mark.tag_inj, same]
  | badge priority => cases mark <;> simp [tags, Mark.tags, Mark.tag]

theorem filter_flatMap_tags (mark : Mark) (atoms : List Atom) :
    (atoms.flatMap Atom.tags).filter (· ∉ mark.tags) = (without mark atoms).flatMap Atom.tags := by
  induction atoms with
  | nil => rfl
  | cons atom rest ih =>
      rw [List.flatMap_cons, List.filter_append, ih, Atom.filter_tags, without_cons]
      split <;> rfl

theorem isFree_without (mark : Mark) (atoms : List Atom) : IsFree mark (without mark atoms) := by
  simp [IsFree, without]

theorem openAfter_without {mark other : Mark} (different : mark ≠ other) (isOpen : Bool)
    (atoms : List Atom) :
    openAfter other isOpen (without mark atoms) = openAfter other isOpen atoms := by
  induction atoms generalizing isOpen with
  | nil => rfl
  | cons atom rest ih =>
      rw [without_cons]
      split
      · rename_i deleted
        have turned : atom.turn other isOpen = some isOpen := by
          simp only [List.mem_cons, List.not_mem_nil, or_false] at deleted
          rcases deleted with rfl | rfl <;> simp [Atom.turn, different]
        rw [openAfter_cons, turned, Option.bind_some]
        exact ih isOpen
      · simp [ih]

theorem Alternates.without {other : Mark} {atoms : List Atom} (alternates : Alternates other atoms)
    (mark : Mark) : Alternates other (without mark atoms) := by
  by_cases same : mark = other
  · subst same
    exact (isFree_without mark atoms).openAfter false
  · exact (openAfter_without same false atoms).trans alternates

theorem not_crossing_without (mark : Mark) (atoms : List Atom) :
    ¬ Crossing (without mark atoms) := by
  intro crossing
  obtain ⟨outer, inner, above, between, inside, below, different, whole, _⟩ := crossing
  have free := isFree_without mark atoms
  rw [whole] at free
  cases eq_or_eq_of_ne different mark with
  | inl isOuter => simp [IsFree, isOuter] at free
  | inr isInner => simp [IsFree, isInner] at free

/-- The tags of a line nest unless a strong part and an emphasized one cross. Those of the strong
parts and the badges nest in any case, and so do those of the emphasized parts and the badges. -/
theorem wellNested_tags_iff_not_crossing (badges : Badges) (text : Text) :
    (Html.wellNested (Inline.tags badges text) ↔ ¬ Crossing (Inline.atoms .suppressed text)) ∧
    ∀ mark : Mark, Html.wellNested ((Inline.tags badges text).filter (· ∉ mark.tags)) := by
  have alternates := Inline.alternates_atoms badges text
  rw [Inline.tags_eq_flatMap]
  constructor
  · have uncrossed := nestedIn_iff_not_crossing (Inline.alternates_atoms .suppressed text)
    rw [← uncrossed, ← Inline.nestedIn_atoms badges, ← nestedIn_flatMap_tags]
    rfl
  · intro mark
    have nested : nestedIn [] (without mark (Inline.atoms badges text)) :=
      (nestedIn_iff_not_crossing fun other => (alternates other).without mark).mpr
        (not_crossing_without mark _)
    rw [filter_flatMap_tags, Html.wellNested]
    rw [← nestedIn_flatMap_tags] at nested
    exact nested

/-- The last of three asterisks on either side is left for an emphasized part, which begins in the
strong one and ends behind it. -/
theorem not_wellNested_tags :
    ¬ ∀ badges text, Html.wellNested (Inline.tags badges text) := by
  intro nested
  have crossed := nested .suppressed "***a***".toList
  rw [Inline.tags_eq_flatMap] at crossed
  revert crossed
  decide +kernel

/-! ### Lines that nest -/

/-- Whether an atom stands only where no strong part is open; the first place is in one or not. -/
def StandsOutside (atom : Atom) (isOpen : Bool) (atoms : List Atom) : Prop :=
  ∀ above below, atoms = above ++ atom :: below → openAfter .strong isOpen above ≠ some true

theorem StandsOutside.cons_iff {atom first : Atom} {isOpen : Bool} {rest : List Atom} :
    StandsOutside atom isOpen (first :: rest) ↔
      (first = atom → isOpen = false) ∧
      ∀ nowOpen, first.turn .strong isOpen = some nowOpen → StandsOutside atom nowOpen rest := by
  constructor
  · intro outside
    constructor
    · intro isFirst
      simpa using outside [] rest (by rw [isFirst, List.nil_append])
    · intro nowOpen turned above below parts
      have there := outside (first :: above) below (by simp [parts])
      rwa [openAfter_cons, turned] at there
  · intro outside above below parts
    cases above with
    | nil => simpa using outside.1 (List.cons.inj parts).1
    | cons other above =>
        rw [List.cons_append, List.cons.injEq] at parts
        obtain ⟨rfl, parts⟩ := parts
        rw [openAfter_cons]
        cases turned : first.turn .strong isOpen with
        | none => simp
        | some nowOpen => exact outside.2 nowOpen turned above below parts

theorem StandsOutside.of_not_mem {atom : Atom} {atoms : List Atom} (absent : atom ∉ atoms)
    (isOpen : Bool) : StandsOutside atom isOpen atoms := by
  intro above below parts
  simp [parts] at absent

theorem StandsOutside.append_iff {atom : Atom} {isOpen : Bool} {first second : List Atom} :
    StandsOutside atom isOpen (first ++ second) ↔
      StandsOutside atom isOpen first ∧
      ∀ nowOpen, openAfter .strong isOpen first = some nowOpen →
        StandsOutside atom nowOpen second := by
  induction first generalizing isOpen with
  | nil => simp [StandsOutside.of_not_mem]
  | cons other rest ih =>
      rw [List.cons_append, cons_iff, cons_iff]
      cases turned : other.turn .strong isOpen <;> simp [turned, ih, and_assoc]

/-- Emphasized parts begin and end where asterisks stand. -/
theorem standsOutside_of_emphasis {before : Option Atom} {atoms result : List Atom} {isOpen : Bool}
    (made : Text.Substitution (fun _ rest => Inline.emphasis? rest) id before atoms result)
    (free : IsFree .emphasis atoms) (outside : StandsOutside (.char '*') isOpen atoms)
    {tag : Atom} (isTag : tag ∈ [.opening .emphasis, .closing .emphasis]) :
    StandsOutside tag isOpen result := by
  induction made generalizing isOpen with
  | nil => exact .of_not_mem (by simp) isOpen
  | @copied _ atom rest _ _ _ ih =>
      simp only [IsFree, List.mem_cons, not_or] at free
      rw [StandsOutside.cons_iff] at outside ⊢
      refine ⟨fun same => ?_, fun nowOpen turned => ?_⟩
      · simp only [id] at same
        simp [← same, Ne.symm free.1.1, Ne.symm free.2.1] at isTag
      · exact ih ⟨free.1.2, free.2.2⟩ (outside.2 nowOpen turned)
  | replaced _ found _ ih =>
      obtain ⟨inner, split, rfl⟩ := Inline.emphasis?_eq_some found
      rw [split] at free outside
      simp only [IsFree, List.cons_append, List.mem_cons, List.mem_append, not_or] at free
      obtain ⟨⟨_, noOpening, _, noOpeningBehind⟩, _, noClosing, _, noClosingBehind⟩ := free
      have absent : tag ∉ inner := by
        simp only [List.mem_cons, List.not_mem_nil, or_false] at isTag
        rcases isTag with rfl | rfl
        · exact noOpening
        · exact noClosing
      rw [List.cons_append, StandsOutside.cons_iff] at outside
      obtain ⟨closed, outside⟩ := outside
      obtain ⟨_, behind⟩ := StandsOutside.append_iff.mp (outside isOpen rfl)
      rw [List.append_assoc, List.cons_append, StandsOutside.cons_iff]
      refine ⟨fun _ => closed rfl, fun nowOpen turned => ?_⟩
      cases turned
      refine StandsOutside.append_iff.mpr ⟨.of_not_mem absent _, fun nowOpen after => ?_⟩
      obtain ⟨closed, outside⟩ := StandsOutside.cons_iff.mp (behind nowOpen after)
      refine StandsOutside.cons_iff.mpr ⟨fun _ => closed rfl, fun stillOpen turned => ?_⟩
      cases turned
      exact ih ⟨noOpeningBehind, noClosingBehind⟩ (outside nowOpen rfl)

theorem not_crossing_of_standsOutside {atoms : List Atom}
    (alternates : ∀ mark, Alternates mark atoms)
    (outside : ∀ tag ∈ [.opening .emphasis, .closing .emphasis], StandsOutside tag false atoms) :
    ¬ Crossing atoms := by
  intro crossing
  obtain ⟨outer, inner, above, between, inside, below, different, whole, notOuter, notInner⟩ :=
    crossing
  rw [List.mem_append, not_or] at notOuter
  have atOpening : atoms = above ++ .opening outer :: between ++
      .opening inner :: (inside ++ .closing outer :: below) := by simp [whole]
  have atClosing : atoms = (above ++ .opening outer :: between) ++ .opening inner :: inside ++
      .closing outer :: below := by simp [whole]
  cases outer with
  | strong =>
      -- The emphasized part begins in the strong one.
      have inStrong := (atOpening ▸ alternates .strong).openAfter_unclosed notOuter.1
      have isInner := (eq_or_eq_of_ne different .emphasis).resolve_left (by simp)
      exact outside _ (by simp [isInner]) _ _ atOpening inStrong
  | emphasis =>
      -- The emphasized part ends in the strong one.
      have isInner := (eq_or_eq_of_ne different .strong).resolve_left (by simp)
      rw [← isInner] at atClosing notInner
      have inStrong := (atClosing ▸ alternates .strong).openAfter_unclosed notInner
      exact outside _ (by simp) _ _ atClosing inStrong

/-- The tags of a line nest where every asterisk that the strong parts leave stands outside of
them. -/
theorem wellNested_tags_of_standsOutside (badges : Badges) {text : Text}
    (outside : StandsOutside (.char '*') false (Inline.markStrong text)) :
    Html.wellNested (Inline.tags badges text) := by
  rw [(wellNested_tags_iff_not_crossing badges text).1]
  apply not_crossing_of_standsOutside (Inline.alternates_atoms .suppressed text)
  intro tag isTag
  have made := Text.substitution_substitute Inline.takesPart_emphasis id (Inline.markStrong text)
  exact standsOutside_of_emphasis made (Inline.marks_markStrong text).2 outside isTag

end EnergyReport.Markup
