import EnergyReport.Proofs.Markup.Crossing
import EnergyReport.Proofs.Text.Substitution

namespace EnergyReport.Markup

/-! What the passes over a line do to the parts that are there already.

The first pass makes strong parts, the second one emphasized parts, the third one badges. None of
them opens or closes a mark of another pass. -/

namespace Inline

open Text (TakesPart Substitution)

variable {text inner after : Text} {atoms : List Atom} {before : Option Atom} {mark : Mark}

/-! ### Strong parts -/

theorem eq_append_of_cutStrong? (cut : cutStrong? text = some (inner, after)) :
    text = inner ++ '*' :: '*' :: after := by
  induction text generalizing inner with
  | nil => contradiction
  | cons c rest ih =>
      simp only [cutStrong?] at cut
      split at cut
      · contradiction
      · split at cut
        · cases cut
          rfl
        · obtain ⟨⟨left, right⟩, inRest, same⟩ := Option.map_eq_some_iff.mp cut
          cases same
          rw [ih inRest]
          rfl

theorem strong?_eq_some {replacement : List Atom}
    (found : strong? text = some (replacement, after)) :
    ∃ inner, text = '*' :: '*' :: inner ++ '*' :: '*' :: after ∧
      replacement = .opening .strong :: inner.map Atom.char ++ [.closing .strong] := by
  unfold strong? at found
  split at found
  · obtain ⟨⟨inner, rest⟩, cut, same⟩ := Option.map_eq_some_iff.mp found
    cases same
    exact ⟨inner, by simp [eq_append_of_cutStrong? cut], rfl⟩
  · contradiction

theorem takesPart_strong : TakesPart fun _ rest => strong? rest := by
  intro _ text replacement after found
  obtain ⟨inner, rfl, _⟩ := strong?_eq_some found
  exact ⟨'*' :: '*' :: inner ++ ['*', '*'], by simp, by simp⟩

theorem isFree_chars (mark : Mark) (text : Text) : IsFree mark (text.map Atom.char) := by
  simp [IsFree]

theorem marks_of_strong {before : Option Char} {result : List Atom}
    (made : Substitution (fun _ rest => strong? rest) Atom.char before text result) :
    Alternates .strong result ∧ IsFree .emphasis result := by
  induction made with
  | nil => simp [Alternates, IsFree]
  | copied _ _ ih => simpa [Alternates, IsFree, Atom.turn] using ih
  | replaced _ found _ ih =>
      obtain ⟨inner, _, rfl⟩ := strong?_eq_some found
      obtain ⟨alternates, free⟩ := ih
      have inside := (isFree_chars .strong inner).openAfter true
      constructor
      · simpa [Alternates, openAfter_append, Atom.turn, inside] using alternates
      · simp [IsFree, free.1, free.2]

/-- The first pass makes strong parts, one after the other, and no emphasized ones. -/
theorem marks_markStrong (text : Text) :
    Alternates .strong (markStrong text) ∧ IsFree .emphasis (markStrong text) :=
  marks_of_strong (Text.substitution_substitute takesPart_strong Atom.char text)

/-! ### Emphasized parts -/

theorem eq_append_of_cutEmphasis? {inner after : List Atom}
    (cut : cutEmphasis? atoms = some (inner, after)) : atoms = inner ++ .char '*' :: after := by
  induction atoms generalizing inner with
  | nil => contradiction
  | cons atom rest ih =>
      simp only [cutEmphasis?] at cut
      split at cut
      · contradiction
      · split at cut
        · cases cut
          rfl
        · obtain ⟨⟨left, right⟩, inRest, same⟩ := Option.map_eq_some_iff.mp cut
          cases same
          rw [ih inRest]
          rfl

theorem emphasis?_eq_some {replacement after : List Atom}
    (found : emphasis? atoms = some (replacement, after)) :
    ∃ inner, atoms = .char '*' :: inner ++ .char '*' :: after ∧
      replacement = .opening .emphasis :: inner ++ [.closing .emphasis] := by
  unfold emphasis? at found
  split at found
  · obtain ⟨⟨inner, rest⟩, cut, same⟩ := Option.map_eq_some_iff.mp found
    cases same
    exact ⟨inner, by simp [eq_append_of_cutEmphasis? cut], rfl⟩
  · contradiction

theorem takesPart_emphasis : TakesPart fun _ rest => emphasis? rest := by
  intro _ atoms replacement after found
  obtain ⟨inner, rfl, _⟩ := emphasis?_eq_some found
  exact ⟨.char '*' :: inner ++ [.char '*'], by simp, by simp⟩

theorem marks_of_emphasis {result : List Atom}
    (made : Substitution (fun _ rest => emphasis? rest) id before atoms result)
    (free : IsFree .emphasis atoms) :
    Alternates .emphasis result ∧
      ∀ isOpen, openAfter .strong isOpen result = openAfter .strong isOpen atoms := by
  induction made with
  | nil => simp [Alternates]
  | @copied before atom rest result _ _ ih =>
      simp only [IsFree, List.mem_cons, not_or] at free
      obtain ⟨⟨notOpening, noOpening⟩, notClosing, noClosing⟩ := free
      obtain ⟨alternates, same⟩ := ih ⟨noOpening, noClosing⟩
      have turned := turn_of_ne (Ne.symm notOpening) (Ne.symm notClosing) false
      constructor
      · simpa [Alternates, turned] using alternates
      · simp [same]
  | @replaced before part rest replacement result _ found _ ih =>
      obtain ⟨inner, split, rfl⟩ := emphasis?_eq_some found
      rw [split] at free ⊢
      simp only [IsFree, List.cons_append, List.mem_cons, List.mem_append, not_or] at free
      obtain ⟨⟨_, noOpening, _, noOpeningBehind⟩, _, noClosing, _, noClosingBehind⟩ := free
      obtain ⟨alternates, same⟩ := ih ⟨noOpeningBehind, noClosingBehind⟩
      have inside := IsFree.openAfter ⟨noOpening, noClosing⟩ true
      constructor
      · simpa [Alternates, openAfter_append, Atom.turn, inside] using alternates
      · simp [openAfter_append, Atom.turn, same]

/-- The second pass makes emphasized parts, one after the other, and keeps the strong ones. -/
theorem alternates_markEmphasis (text : Text) (mark : Mark) :
    Alternates mark (markEmphasis (markStrong text)) := by
  obtain ⟨strong, free⟩ := marks_markStrong text
  obtain ⟨emphasis, same⟩ :=
    marks_of_emphasis (Text.substitution_substitute takesPart_emphasis id _) free
  cases mark with
  | strong => exact (same false).trans strong
  | emphasis => exact emphasis

/-! ### Badges -/

theorem eq_append_of_stripWord? {word : Text} {after : List Atom}
    (stripped : stripWord? word atoms = some after) :
    ∃ taken : Text, taken.map Text.foldCase = word ∧ atoms = taken.map Atom.char ++ after := by
  induction word generalizing atoms with
  | nil =>
      cases stripped
      exact ⟨[], rfl, rfl⟩
  | cons letter more ih =>
      cases atoms with
      | nil => contradiction
      | cons atom rest =>
          cases atom with
          | char c =>
              simp only [stripWord?] at stripped
              split at stripped
              · rename_i same
                obtain ⟨taken, folded, rfl⟩ := ih stripped
                exact ⟨c :: taken, by rw [List.map_cons, same, folded], rfl⟩
              · contradiction
          | _ => contradiction

theorem ne_nil_of_mem_words {badge : Badge} {word : Text} (among : word ∈ badge.words) :
    word ≠ [] := by
  have nonempty : ∀ badge ∈ Badge.all, ∀ word ∈ badge.words, word ≠ [] := by decide
  exact nonempty badge (by cases badge <;> decide) word among

theorem eq_append_of_priority? {badge : Badge} {after : List Atom}
    (found : priority? atoms = some (badge, after)) :
    ∃ taken : Text, taken.map Text.foldCase ∈ badge.words ∧
      atoms = taken.map Atom.char ++ after := by
  obtain ⟨_, _, found⟩ := List.exists_of_findSome?_eq_some found
  obtain ⟨word, among, found⟩ := List.exists_of_findSome?_eq_some found
  obtain ⟨rest, stripped, same⟩ := Option.map_eq_some_iff.mp found
  cases same
  obtain ⟨taken, folded, split⟩ := eq_append_of_stripWord? stripped
  exact ⟨taken, folded ▸ among, split⟩

theorem badge?_eq_some {replacement after : List Atom}
    (found : badge? before atoms = some (replacement, after)) :
    ∃ taken : Text, taken ≠ [] ∧ atoms = taken.map Atom.char ++ after ∧
      (replacement = taken.map Atom.char ∨ ∃ badge, replacement = [.badge badge]) := by
  obtain ⟨⟨badge, rest⟩, isPriority, same⟩ := Option.map_eq_some_iff.mp found
  obtain ⟨taken, among, rfl⟩ := eq_append_of_priority? isPriority
  refine ⟨taken, List.map_eq_nil_iff.not.mp (ne_nil_of_mem_words among), ?_⟩
  dsimp only at same
  split at same
  · cases same
    simp
  · cases same
    exact ⟨rfl, .inr ⟨badge, rfl⟩⟩

theorem takesPart_badge : TakesPart badge? := by
  intro _ atoms replacement after found
  obtain ⟨taken, nonempty, split, _⟩ := badge?_eq_some found
  exact ⟨taken.map Atom.char, by simpa using nonempty, split⟩

/-- Badges take the places of words, which have no marks. -/
theorem openAfter_of_badges {result : List Atom}
    (made : Substitution badge? id before atoms result) (mark : Mark) (isOpen : Bool) :
    openAfter mark isOpen result = openAfter mark isOpen atoms := by
  induction made generalizing isOpen with
  | nil => rfl
  | copied _ _ ih => simp [ih]
  | replaced _ found _ ih =>
      obtain ⟨taken, _, split, replacement⟩ := badge?_eq_some found
      rw [split, openAfter_append, openAfter_append, (isFree_chars mark taken).openAfter]
      rcases replacement with rfl | ⟨badge, rfl⟩
      · rw [(isFree_chars mark taken).openAfter]
        exact ih isOpen
      · exact ih isOpen

theorem nestedIn_of_badges {result : List Atom}
    (made : Substitution badge? id before atoms result) (opened : List Mark) :
    nestedIn opened result = nestedIn opened atoms := by
  induction made generalizing opened with
  | nil => rfl
  | @copied _ atom _ _ _ _ ih =>
      cases atom with
      | closing mark => cases opened <;> simp [nestedIn, ih]
      | _ => simp [nestedIn, ih]
  | replaced _ found _ ih =>
      obtain ⟨taken, _, split, replacement⟩ := badge?_eq_some found
      rw [split, nestedIn_append_of_isFree fun mark => isFree_chars mark taken]
      rcases replacement with rfl | ⟨badge, rfl⟩
      · rw [nestedIn_append_of_isFree fun mark => isFree_chars mark taken]
        exact ih opened
      · exact ih opened

/-- Whether the parts of a line nest does not depend on its badges. -/
theorem nestedIn_atoms (badges : Badges) (text : Text) :
    nestedIn [] (Inline.atoms badges text) = nestedIn [] (Inline.atoms .suppressed text) := by
  cases badges with
  | suppressed => rfl
  | shown =>
      have made := Text.substitution_substitute takesPart_badge id (markEmphasis (markStrong text))
      exact nestedIn_of_badges made []

/-- In a formatted line each mark is opened and closed in turn. -/
theorem alternates_atoms (badges : Badges) (text : Text) (mark : Mark) :
    Alternates mark (Inline.atoms badges text) := by
  cases badges with
  | suppressed => exact alternates_markEmphasis text mark
  | shown =>
      have made := Text.substitution_substitute takesPart_badge id (markEmphasis (markStrong text))
      exact (openAfter_of_badges made mark false).trans (alternates_markEmphasis text mark)

end Inline

end EnergyReport.Markup
