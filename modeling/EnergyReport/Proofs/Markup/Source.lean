import EnergyReport.Proofs.Html.Characters
import EnergyReport.Proofs.Markup.Emphasis

namespace EnergyReport.Text

/-- What is left of a text when `count` of its characters, all of them `c`, are deleted. -/
inductive Deletes (c : Char) : Nat → Text → Text → Prop where
  | nil : Deletes c 0 [] []
  | kept {count : Nat} {text rest : Text} (other : Char) (following : Deletes c count text rest) :
      Deletes c count (other :: text) (other :: rest)
  | deleted {count : Nat} {text rest : Text} (following : Deletes c count text rest) :
      Deletes c (count + 1) (c :: text) rest

theorem Deletes.replicate_append {c : Char} {count : Nat} {text rest : Text}
    (deletes : Deletes c count text rest) (more : Nat) :
    Deletes c (more + count) (List.replicate more c ++ text) rest := by
  induction more with
  | zero => simpa using deletes
  | succ more ih =>
      rw [List.replicate_succ, List.cons_append, Nat.add_right_comm]
      exact .deleted ih

end EnergyReport.Text

namespace EnergyReport.Markup

/-! The line that a formatted line is made from.

Formatting takes asterisks out of a line and puts tags in their places. Nothing else is taken, put
in or moved: the tags tell the asterisks. -/

/-- The asterisks at either end of a part. -/
def Mark.asterisks : Mark → Text
  | .strong => List.replicate 2 '*'
  | .emphasis => List.replicate 1 '*'

/-- The asterisks that a tag is put in place of. -/
def asterisksOf (tag : Html.Tag) : Text :=
  if tag ∈ Mark.strong.tags then Mark.strong.asterisks
  else if tag ∈ Mark.emphasis.tags then Mark.emphasis.asterisks
  else []

/-- What is read of an atom when its tags are replaced. -/
def Atom.content (replacement : Html.Tag → Text) (atom : Atom) : Text :=
  match atom with
  | .char c => [c]
  | other => other.tags.flatMap replacement

/-- Whether no atom is a badge. -/
def Unbadged (atoms : List Atom) : Prop :=
  ∀ badge, .badge badge ∉ atoms

theorem unbadged_cons_iff {atom : Atom} {rest : List Atom} :
    Unbadged (atom :: rest) ↔ (∀ badge, atom ≠ .badge badge) ∧ Unbadged rest := by
  simp [Unbadged, forall_and, eq_comm]

theorem unbadged_append_iff {first second : List Atom} :
    Unbadged (first ++ second) ↔ Unbadged first ∧ Unbadged second := by
  simp [Unbadged, forall_and]

/-! ### The passes -/

namespace Inline

open Text (Substitution)

/-- The part of a line that an atom is made from; badges do not tell it. -/
abbrev source : Atom → Text :=
  Atom.content asterisksOf

theorem source_chars (text : Text) : (text.map Atom.char).flatMap source = text := by
  simp [List.flatMap_map, Atom.content]

theorem source_mark (mark : Mark) :
    source (.opening mark) = mark.asterisks ∧ source (.closing mark) = mark.asterisks := by
  cases mark <;> decide

theorem source_of_strong {before : Option Char} {text : Text} {result : List Atom}
    (made : Substitution (fun _ rest => strong? rest) Atom.char before text result) :
    result.flatMap source = text ∧ Unbadged result := by
  induction made with
  | nil => exact ⟨rfl, by simp [Unbadged]⟩
  | copied _ _ ih => exact ⟨by simp [ih.1, Atom.content], by simpa [Unbadged] using ih.2⟩
  | replaced _ found _ ih =>
      obtain ⟨inner, split, rfl⟩ := strong?_eq_some found
      rw [split]
      constructor
      · simp [source_chars, source_mark, Mark.asterisks, ih.1]
      · simpa [Unbadged] using ih.2

theorem source_of_emphasis {before : Option Atom} {atoms result : List Atom}
    (made : Substitution (fun _ rest => emphasis? rest) id before atoms result) :
    result.flatMap source = atoms.flatMap source ∧ (Unbadged atoms → Unbadged result) := by
  induction made with
  | nil => exact ⟨rfl, id⟩
  | copied _ _ ih =>
      refine ⟨by simp [ih.1], fun unbadged => ?_⟩
      rw [unbadged_cons_iff] at unbadged ⊢
      exact ⟨unbadged.1, ih.2 unbadged.2⟩
  | replaced _ found _ ih =>
      obtain ⟨inner, split, rfl⟩ := emphasis?_eq_some found
      rw [split]
      constructor
      · simp [source_mark, Mark.asterisks, ih.1, Atom.content]
      · intro unbadged
        simp only [List.cons_append, List.append_assoc, List.nil_append, unbadged_cons_iff,
          unbadged_append_iff] at unbadged ⊢
        obtain ⟨_, inside, _, behind⟩ := unbadged
        exact ⟨by simp, inside, by simp, ih.2 behind⟩

/-- The tags of a formatted line tell the asterisks of the line. -/
theorem source_atoms (text : Text) :
    (Inline.atoms .suppressed text).flatMap source = text ∧
      Unbadged (Inline.atoms .suppressed text) := by
  obtain ⟨strong, unbadged⟩ :=
    source_of_strong (Text.substitution_substitute takesPart_strong Atom.char text)
  obtain ⟨emphasis, keeps⟩ :=
    source_of_emphasis (Text.substitution_substitute takesPart_emphasis id (markStrong text))
  exact ⟨emphasis.trans strong, keeps unbadged⟩

end Inline

/-! ### The asterisks that are taken out -/

/-- How many asterisks the atoms of a line are put in place of. -/
def countAsterisks (atoms : List Atom) : Nat :=
  2 * (atoms.count (.opening .strong) + atoms.count (.closing .strong)) +
    (atoms.count (.opening .emphasis) + atoms.count (.closing .emphasis))

theorem deletes_source {atoms : List Atom} (unbadged : Unbadged atoms) :
    Text.Deletes '*' (countAsterisks atoms) (atoms.flatMap Inline.source)
      (atoms.flatMap (Atom.content fun _ => [])) := by
  induction atoms with
  | nil => exact .nil
  | cons atom rest ih =>
      have following := ih (unbadged_cons_iff.mp unbadged).2
      rw [List.flatMap_cons, List.flatMap_cons]
      cases atom with
      | char c =>
          have count : countAsterisks (.char c :: rest) = countAsterisks rest := by
            simp [countAsterisks]
          rw [count]
          exact .kept c following
      | badge badge => exact absurd List.mem_cons_self (unbadged badge)
      | opening mark =>
          have count : countAsterisks (.opening mark :: rest) =
              mark.asterisks.length + countAsterisks rest := by
            cases mark <;> simp [countAsterisks, Mark.asterisks] <;> omega
          rw [count, (Inline.source_mark mark).1]
          cases mark <;> exact following.replicate_append _
      | closing mark =>
          have count : countAsterisks (.closing mark :: rest) =
              mark.asterisks.length + countAsterisks rest := by
            cases mark <;> simp [countAsterisks, Mark.asterisks] <;> omega
          rw [count, (Inline.source_mark mark).2]
          cases mark <;> exact following.replicate_append _

theorem count_opening_of_openAfter {mark : Mark} {isOpen stillOpen : Bool} {atoms : List Atom}
    (after : openAfter mark isOpen atoms = some stillOpen) :
    isOpen.toNat + atoms.count (.opening mark) = stillOpen.toNat + atoms.count (.closing mark) := by
  induction atoms generalizing isOpen with
  | nil =>
      cases after
      rfl
  | cons atom rest ih =>
      obtain ⟨nowOpen, turned, following⟩ := Option.bind_eq_some_iff.mp after
      have inRest := ih following
      by_cases isMark : atom ∈ [.opening mark, .closing mark]
      · simp only [List.mem_cons, List.not_mem_nil, or_false] at isMark
        rcases isMark with rfl | rfl <;> cases isOpen <;> simp [Atom.turn] at turned <;>
          subst turned <;> simp at inRest ⊢ <;> omega
      · simp only [List.mem_cons, List.not_mem_nil, or_false, not_or] at isMark
        rw [turn_of_ne isMark.1 isMark.2] at turned
        cases turned
        rwa [List.count_cons_of_ne isMark.1, List.count_cons_of_ne isMark.2]

theorem Alternates.count_opening {mark : Mark} {atoms : List Atom}
    (alternates : Alternates mark atoms) :
    atoms.count (.opening mark) = atoms.count (.closing mark) := by
  simpa using count_opening_of_openAfter alternates

theorem count_flatMap_tags (mark : Mark) (atoms : List Atom) :
    (atoms.flatMap Atom.tags).count (.opening mark.tag []) = atoms.count (.opening mark) ∧
      (atoms.flatMap Atom.tags).count (.closing mark.tag) = atoms.count (.closing mark) := by
  induction atoms with
  | nil => simp
  | cons atom rest ih =>
      rw [List.flatMap_cons, List.count_append, List.count_append, ih.1, ih.2]
      cases atom with
      | char c => simp [Atom.tags]
      | badge priority => cases mark <;> simp [Atom.tags, Mark.tag]
      | opening other =>
          by_cases same : other = mark <;> simp [Atom.tags, Mark.tag_inj, same, Nat.add_comm]
      | closing other =>
          by_cases same : other = mark <;> simp [Atom.tags, Mark.tag_inj, same, Nat.add_comm]

/-! ### The page -/

section Replaced

variable {replacement : Html.Tag → Text}

theorem unescape_replace_tokens (plain : ∀ tag, '&' ∉ replacement tag) {atoms : List Atom}
    (unbadged : Unbadged atoms) :
    Html.unescape (((atoms.flatMap Atom.pieces).flatMap Html.Piece.tokens).flatMap
        (Html.Token.replace replacement)) = atoms.flatMap (Atom.content replacement) := by
  induction atoms with
  | nil => rfl
  | cons atom rest ih =>
      have following := ih (unbadged_cons_iff.mp unbadged).2
      rw [List.flatMap_cons, List.flatMap_append, List.flatMap_append, List.flatMap_cons,
        ← following]
      cases atom with
      | char c =>
          have shown : Html.escape [c] = Html.escapeChar c := by simp [Html.escape]
          simp only [Atom.pieces, List.flatMap_singleton, Html.Piece.tokens, Html.replace_chars,
            Atom.content, shown, Html.unescape_escapeChar]
          rfl
      | badge badge => exact absurd List.mem_cons_self (unbadged badge)
      | opening mark | closing mark =>
          simp only [Atom.pieces, List.flatMap_singleton, Html.Piece.tokens, Html.Token.replace,
            Atom.content, Atom.tags, Html.unescape_append (plain _)]

/-- A formatted line with its tags replaced, each at its place, and its entities decoded. -/
theorem Inline.unescape_replaceTags (plain : ∀ tag, '&' ∉ replacement tag) (text : Text) :
    Html.unescape (Html.replaceTags replacement
        (Html.render (Inline.pieces .suppressed text)).toList) =
      (Inline.atoms .suppressed text).flatMap (Atom.content replacement) := by
  rw [Html.replaceTags, Inline.tokens_render, Inline.pieces,
    unescape_replace_tokens plain (source_atoms text).2]

end Replaced

theorem ampersand_not_mem_asterisksOf (tag : Html.Tag) : '&' ∉ asterisksOf tag := by
  unfold asterisksOf
  split
  · decide
  · split <;> decide

/-- The tags of a formatted line are those of its parts: as many that close a part as open one. The
line without them is the line that was formatted, less four asterisks for each strong part and two
for each emphasized one; with the asterisks in their places it is that line itself. -/
theorem formatted_line_tells_source (text : Text) :
    let page := (Html.render (Inline.pieces .suppressed text)).toList
    let tags := Html.tags (Html.tokens page)
    (∀ tag ∈ tags, tag ∈ Html.inlineTags) ∧
      (∀ mark : Mark, tags.count (.opening mark.tag []) = tags.count (.closing mark.tag)) ∧
      Text.Deletes '*' (4 * tags.count (.opening "strong" []) + 2 * tags.count (.opening "em" []))
        text (Html.unescape (Html.replaceTags (fun _ => []) page)) ∧
      Html.unescape (Html.replaceTags asterisksOf page) = text := by
  intro page tags
  obtain ⟨source, unbadged⟩ := Inline.source_atoms text
  have alternates (mark : Mark) := (Inline.alternates_atoms .suppressed text mark).count_opening
  have isTags : tags = (Inline.atoms .suppressed text).flatMap Atom.tags :=
    Inline.tags_eq_flatMap .suppressed text
  have opened (mark : Mark) : tags.count (.opening mark.tag []) =
      (Inline.atoms .suppressed text).count (.opening mark) :=
    isTags ▸ (count_flatMap_tags mark _).1
  have closed (mark : Mark) : tags.count (.closing mark.tag) =
      (Inline.atoms .suppressed text).count (.closing mark) :=
    isTags ▸ (count_flatMap_tags mark _).2
  have count : 4 * tags.count (.opening "strong" []) + 2 * tags.count (.opening "em" []) =
      countAsterisks (Inline.atoms .suppressed text) := by
    have strong : tags.count (.opening "strong" []) = _ := opened .strong
    have emphasis : tags.count (.opening "em" []) = _ := opened .emphasis
    rw [strong, emphasis, countAsterisks, ← alternates .strong, ← alternates .emphasis]
    omega
  refine ⟨?_, fun mark => ?_, ?_, ?_⟩
  · intro tag member
    rw [isTags] at member
    obtain ⟨atom, among, inAtom⟩ := List.mem_flatMap.mp member
    cases atom with
    | char c => contradiction
    | badge badge => exact absurd among (unbadged badge)
    | opening mark | closing mark =>
        rw [List.mem_singleton.mp inAtom]
        cases mark <;> decide
  · rw [opened, closed, alternates]
  · have deletes := deletes_source unbadged
    rwa [source, ← count, ← Inline.unescape_replaceTags (by simp)] at deletes
  · rw [Inline.unescape_replaceTags ampersand_not_mem_asterisksOf, source]

-- a part that crosses another, and characters that are escaped
example :
    let page := (Html.render (Inline.pieces .suppressed "***a & b*** < *".toList)).toList
    page = "<strong><em>a &amp; b</strong></em> &lt; *".toList ∧
      Html.unescape (Html.replaceTags (fun _ => []) page) = "a & b < *".toList := by
  decide +kernel

end EnergyReport.Markup
