import EnergyReport.Proofs.Markup.PriorityWord
import EnergyReport.Proofs.Markup.Source

namespace EnergyReport.Markup

/-! The words of a formatted line that badges take the places of.

The pass over a line looks for forms of the words from left to right and goes on behind those that
are part of a longer word. It misses no word that way: letters follow each other in a form, so that
no other word begins within. -/

/-- Whether a word of a badge stands between two neighbours that are not letters. -/
structure IsWhole (badge : Badge) (before : Option Char) (word : Text) (after : Option Char) :
    Prop where
  names : badge.Names word
  begins : before.any Text.isWordLetter = false
  ends : after.any Text.isWordLetter = false

instance (badge : Badge) (before : Option Char) (word : Text) (after : Option Char) :
    Decidable (IsWhole badge before word after) :=
  decidable_of_iff (badge.Names word ∧ before.any Text.isWordLetter = false ∧
      after.any Text.isWordLetter = false)
    ⟨fun ⟨names, begins, ends⟩ => ⟨names, begins, ends⟩,
      fun whole => ⟨whole.names, whole.begins, whole.ends⟩⟩

/-- A part of a formatted line: a character that stays, or a word with the badge that is put in its
place. -/
inductive Part where
  | kept (c : Char)
  | replaced (word : Text) (badge : Badge)
  deriving Repr, DecidableEq

def Atom.written (atom : Atom) : Text :=
  (Html.render atom.pieces).toList

def Part.source : Part → Text
  | .kept c => [c]
  | .replaced word _ => word

def Part.shown : Part → Text
  | .kept c => [c]
  | .replaced _ badge => (Atom.badge badge).written

/-- Whether the words among the parts of a text are its whole words, each of them. The text follows
the character `lead`. -/
structure TellsWords (lead : Option Char) (parts : List Part) : Prop where
  isWhole : ∀ left word badge right, parts = left ++ .replaced word badge :: right →
    IsWhole badge ((left.flatMap Part.source).getLast?.or lead) word
      (right.flatMap Part.source).head?
  isPart : ∀ above word below badge, parts.flatMap Part.source = above ++ word ++ below →
    IsWhole badge (above.getLast?.or lead) word below.head? →
    ∃ left right, parts = left ++ .replaced word badge :: right ∧
      left.flatMap Part.source = above ∧ right.flatMap Part.source = below

/-! ### Parts, one after the other -/

theorem getLast?_append_or (first second : Text) (lead : Option Char) :
    (first ++ second).getLast?.or lead = second.getLast?.or (first.getLast?.or lead) := by
  rw [List.getLast?_append, Option.or_assoc]

section Parts

variable {lead : Option Char} {parts : List Part}

theorem source_kept (text : Text) :
    (text.map Part.kept).flatMap Part.source = text ∧
      (text.map Part.kept).flatMap Part.shown = text := by
  simp [List.flatMap_map, Part.source, Part.shown]

theorem source_cons_kept (c : Char) (parts : List Part) :
    (Part.kept c :: parts).flatMap Part.source = c :: parts.flatMap Part.source :=
  rfl

theorem source_cons_replaced (word : Text) (badge : Badge) (parts : List Part) :
    (Part.replaced word badge :: parts).flatMap Part.source = word ++ parts.flatMap Part.source :=
  rfl

/-- Whether a whole word stands at the beginning of a text. -/
def BeginsWhole (lead : Option Char) (text : Text) : Prop :=
  ∃ word below badge, text = word ++ below ∧ IsWhole badge lead word below.head?

theorem BeginsWhole.lead_any {text : Text} (begins : BeginsWhole lead text) :
    lead.any Text.isWordLetter = false := by
  obtain ⟨_, _, _, _, whole⟩ := begins
  exact whole.begins

namespace TellsWords

theorem nil (lead : Option Char) : TellsWords lead [] where
  isWhole left word badge right split := by simp at split
  isPart above word below badge split whole := by
    have nothing : word = [] := by simp_all
    exact absurd nothing whole.names.ne_nil

theorem cons_kept {c : Char} (none : ¬ BeginsWhole lead (c :: parts.flatMap Part.source))
    (following : TellsWords (some c) parts) : TellsWords lead (.kept c :: parts) where
  isWhole left word badge right split := by
    cases left with
    | nil => simp at split
    | cons first left =>
        rw [List.cons_append, List.cons.injEq] at split
        obtain ⟨rfl, split⟩ := split
        rw [source_cons_kept, Text.getLast?_cons_or]
        exact following.isWhole left word badge right split
  isPart above word below badge split whole := by
    rw [source_cons_kept] at split
    cases above with
    | nil => exact absurd ⟨word, below, badge, split, whole⟩ none
    | cons first above =>
        obtain ⟨rfl, inRest⟩ := List.cons.inj split
        rw [Text.getLast?_cons_or] at whole
        obtain ⟨left, right, rfl, isAbove, isBelow⟩ :=
          following.isPart above word below badge inRest whole
        exact ⟨.kept c :: left, right, rfl, by simp [Part.source, isAbove], isBelow⟩

theorem append_kept {text : Text}
    (none : ∀ above c below, text = above ++ c :: below →
      ¬ BeginsWhole (above.getLast?.or lead) (c :: below ++ parts.flatMap Part.source))
    (following : TellsWords (text.getLast?.or lead) parts) :
    TellsWords lead (text.map Part.kept ++ parts) := by
  induction text generalizing lead with
  | nil => exact following
  | cons c text ih =>
      refine cons_kept ?_ (ih (fun above other below split => ?_) ?_)
      · simpa [source_kept] using none [] c text rfl
      · rw [← Text.getLast?_cons_or]
        exact none (c :: above) other below (by rw [split, List.cons_append])
      · rwa [← Text.getLast?_cons_or]

theorem cons_replaced {word : Text} {badge : Badge}
    (whole : IsWhole badge lead word (parts.flatMap Part.source).head?)
    (following : TellsWords (word.getLast?.or lead) parts) :
    TellsWords lead (.replaced word badge :: parts) where
  isWhole left other kind right split := by
    cases left with
    | nil =>
        cases split
        exact whole
    | cons first left =>
        rw [List.cons_append, List.cons.injEq] at split
        obtain ⟨rfl, split⟩ := split
        rw [source_cons_replaced, getLast?_append_or]
        exact following.isWhole left other kind right split
  isPart above other below kind split inside := by
    rw [source_cons_replaced, List.append_assoc] at split
    rcases List.append_eq_append_iff.mp split with ⟨more, rfl, inRest⟩ | ⟨more, isWord, _⟩
    · rw [getLast?_append_or] at inside
      obtain ⟨left, right, rfl, isAbove, isBelow⟩ :=
        following.isPart more other below kind (by rw [inRest, List.append_assoc]) inside
      exact ⟨.replaced word badge :: left, right, rfl, by simp [Part.source, isAbove], isBelow⟩
    · cases last : above.getLast? with
      | none =>
          -- both words begin here, so they are the same
          obtain rfl := List.getLast?_eq_none_iff.mp last
          obtain ⟨rfl, rfl⟩ :=
            whole.names.eq_of_append_eq inside.names split whole.ends inside.ends
          obtain rfl := whole.names.badge_eq inside.names
          exact ⟨[], parts, rfl, rfl, rfl⟩
      | some c =>
          -- the other word would follow a letter of this one
          have member : c ∈ word := by
            rw [isWord]
            exact List.mem_append_left more (List.mem_of_getLast? last)
          have begins := inside.begins
          simp [last, whole.names.folded.2 c member] at begins

end TellsWords

end Parts

/-! ### What is written for atoms -/

theorem Inline.toList_render_pieces (badges : Badges) (text : Text) :
    (Html.render (Inline.pieces badges text)).toList =
      (Inline.atoms badges text).flatMap Atom.written := by
  rw [Inline.pieces, Html.toList_render, List.flatMap_assoc]
  simp only [← Html.toList_render]
  rfl

/-- What is written for atoms that are not themselves characters of the page. -/
def separators : List Text :=
  ["&amp;", "&lt;", "&gt;", "<strong>", "</strong>", "<em>", "</em>"].map String.toList

theorem written_cases {atom : Atom} (unbadged : ∀ badge, atom ≠ .badge badge) :
    (∃ c, atom = .char c ∧ atom.written = [c]) ∨
      Inline.continuesWord (some atom) = false ∧ atom.written ∈ separators := by
  cases atom with
  | char c =>
      have isWritten : (Atom.char c).written = Html.escapeChar c := by
        simp [Atom.written, Atom.pieces, Html.toList_render, Html.Piece.render, Html.escape]
      rw [isWritten]
      unfold Html.escapeChar
      split
      · exact .inr (by decide)
      · exact .inr (by decide)
      · exact .inr (by decide)
      · exact .inl ⟨_, rfl, rfl⟩
  | opening mark => cases mark <;> exact .inr (by decide +kernel)
  | closing mark => cases mark <;> exact .inr (by decide +kernel)
  | badge badge => exact absurd rfl (unbadged badge)

theorem separator_ends {text : Text} (isSeparator : text ∈ separators) :
    text ≠ [] ∧ text.head?.any Text.isWordLetter = false ∧
      text.getLast?.any Text.isWordLetter = false := by
  have checked : ∀ text ∈ separators, text ≠ [] ∧ text.head?.any Text.isWordLetter = false ∧
      text.getLast?.any Text.isWordLetter = false := by
    decide +kernel
  exact checked text isSeparator

/-- In a tag or an entity the initials of the words follow other letters. -/
theorem not_beginsWhole_in_separator {text above below rest : Text} {c : Char}
    {lead : Option Char} (isSeparator : text ∈ separators) (split : text = above ++ c :: below) :
    ¬ BeginsWhole (above.getLast?.or lead) (c :: below ++ rest) := by
  have checked : ∀ text ∈ separators, ∀ place < text.length,
      (text.take place).getLast?.any Text.isWordLetter ∨
        text[place]?.all (Text.foldCase · ∉ initials) := by
    decide +kernel
  intro begins
  rcases checked text isSeparator above.length (by simp [split]) with inside | other
  · have lead := begins.lead_any
    obtain ⟨last, isLast, isLetter⟩ := (Option.any_eq_true ..).mp inside
    have isLast : above.getLast? = some last := by simpa [split] using isLast
    simp [isLast, isLetter] at lead
  · obtain ⟨word, after, badge, split', whole⟩ := begins
    obtain ⟨first, more, rfl, isInitial⟩ := whole.names.initial
    obtain rfl : c = first := (List.cons.inj split').1
    simp [split, isInitial] at other

section Written

variable {atoms : List Atom}

theorem eq_append_of_written (unbadged : Unbadged atoms) {word below : Text}
    (letters : ∀ c ∈ word, Text.isWordLetter c)
    (written : atoms.flatMap Atom.written = word ++ below) :
    ∃ after, atoms = word.map Atom.char ++ after ∧ after.flatMap Atom.written = below := by
  induction word generalizing atoms with
  | nil => exact ⟨atoms, rfl, written⟩
  | cons c word ih =>
      rw [List.forall_mem_cons] at letters
      cases atoms with
      | nil => simp at written
      | cons atom rest =>
          obtain ⟨isOrdinary, unbadgedRest⟩ := unbadged_cons_iff.mp unbadged
          rw [List.flatMap_cons] at written
          rcases written_cases isOrdinary with ⟨other, rfl, isWritten⟩ | ⟨_, isSeparator⟩
          · rw [isWritten] at written
            obtain ⟨rfl, following⟩ := List.cons.inj written
            obtain ⟨after, rfl, isBelow⟩ := ih unbadgedRest letters.2 following
            exact ⟨after, rfl, isBelow⟩
          · obtain ⟨nonempty, noLetter, _⟩ := separator_ends isSeparator
            obtain ⟨first, more, parts⟩ := List.exists_cons_of_ne_nil nonempty
            rw [parts] at written noLetter
            obtain ⟨rfl, _⟩ := List.cons.inj written
            simp [letters.1] at noLetter

theorem head_written (unbadged : Unbadged atoms) :
    (atoms.flatMap Atom.written).head?.any Text.isWordLetter =
      Inline.continuesWord atoms.head? := by
  cases atoms with
  | nil => rfl
  | cons atom rest =>
      have isOrdinary := (unbadged_cons_iff.mp unbadged).1
      rw [List.flatMap_cons, List.head?_cons]
      rcases written_cases isOrdinary with ⟨c, rfl, isWritten⟩ | ⟨noLetter, isSeparator⟩
      · simp [isWritten, Inline.continuesWord]
      · obtain ⟨nonempty, head, _⟩ := separator_ends isSeparator
        rw [noLetter, List.head?_append_of_ne_nil _ nonempty, head]

theorem getLast_written {atom : Atom} (isOrdinary : ∀ badge, atom ≠ .badge badge)
    (lead : Option Char) : (atom.written.getLast?.or lead).any Text.isWordLetter =
      Inline.continuesWord (some atom) := by
  rcases written_cases isOrdinary with ⟨c, rfl, isWritten⟩ | ⟨noLetter, isSeparator⟩
  · simp [isWritten, Inline.continuesWord]
  · obtain ⟨nonempty, _, last⟩ := separator_ends isSeparator
    rw [List.getLast?_eq_some_getLast nonempty] at last ⊢
    rw [noLetter, Option.some_or, last]

theorem written_chars {word : Text} (letters : ∀ c ∈ word, Text.isWordLetter c) :
    (word.map Atom.char).flatMap Atom.written = word := by
  induction word with
  | nil => rfl
  | cons c word ih =>
      rw [List.forall_mem_cons] at letters
      rw [List.map_cons, List.flatMap_cons, ih letters.2]
      have isOrdinary (badge : Badge) : Atom.char c ≠ .badge badge := by simp
      rcases written_cases isOrdinary with ⟨_, same, isWritten⟩ | ⟨noLetter, _⟩
      · rw [isWritten, ← Atom.char.inj same, List.singleton_append]
      · simp [Inline.continuesWord, letters.1] at noLetter

end Written

/-! ### The pass -/

/-- Whether no atom is a badge or the long s. -/
structure Bare (atoms : List Atom) : Prop where
  unbadged : Unbadged atoms
  ordinary : .char '\u017F' ∉ atoms

theorem Bare.of_cons {atom : Atom} {rest : List Atom} (bare : Bare (atom :: rest)) :
    (∀ badge, atom ≠ .badge badge) ∧ Bare rest := by
  obtain ⟨isOrdinary, unbadged⟩ := unbadged_cons_iff.mp bare.unbadged
  exact ⟨isOrdinary, unbadged, List.not_mem_of_not_mem_cons bare.ordinary⟩

theorem Bare.of_append {first second : List Atom} (bare : Bare (first ++ second)) :
    Bare second where
  unbadged := (unbadged_append_iff.mp bare.unbadged).2
  ordinary member := bare.ordinary (List.mem_append_right first member)

theorem Bare.of_text {text : Text} (ordinary : '\u017F' ∉ text) :
    Bare (Inline.atoms .suppressed text) where
  unbadged := (Inline.source_atoms text).2
  ordinary member := by
    have inText : '\u017F' ∈ (Inline.atoms .suppressed text).flatMap Inline.source :=
      List.mem_flatMap.mpr ⟨_, member, List.mem_singleton.mpr rfl⟩
    exact ordinary ((Inline.source_atoms text).1 ▸ inText)

section Pass

variable {atoms : List Atom} {before : Option Atom} {lead : Option Char}

theorem priority?_of_beginsWhole (bare : Bare atoms)
    (begins : BeginsWhole lead (atoms.flatMap Atom.written)) :
    ∃ (badge : Badge) (word : Text) (after : List Atom),
      Inline.priority? atoms = some (badge, after) ∧
      atoms = word.map Atom.char ++ after ∧ Inline.continuesWord after.head? = false := by
  obtain ⟨word, below, badge, split, whole⟩ := begins
  obtain ⟨after, rfl, rfl⟩ := eq_append_of_written bare.unbadged whole.names.folded.2 split
  have ends := head_written bare.of_append.unbadged ▸ whole.ends
  have found := Inline.priority?_of_ended whole.names ends bare.of_append.ordinary
  exact ⟨badge, word, after, found, rfl, ends⟩

/-- What is found is a word, and stays where it is part of a longer one. -/
theorem Inline.badge?_eq_some_of_bare {part rest replacement : List Atom}
    (bare : Bare (part ++ rest))
    (found : Inline.badge? before (part ++ rest) = some (replacement, rest)) :
    ∃ badge word, badge.Names word ∧ part = word.map Atom.char ∧
      Inline.priority? (part ++ rest) = some (badge, rest) ∧
      replacement = if Inline.continuesWord before || Inline.continuesWord rest.head? then part
        else [.badge badge] := by
  obtain ⟨⟨badge, after⟩, isPriority, same⟩ := Option.map_eq_some_iff.mp found
  have sameRest : after = rest := by
    dsimp only at same
    split at same <;> exact congrArg Prod.snd same
  subst sameRest
  obtain ⟨word, among, split⟩ := Inline.eq_append_of_priority? isPriority
  have isPart := List.append_cancel_right split
  have ordinary : '\u017F' ∉ word := by
    intro member
    refine bare.ordinary (List.mem_append_left _ ?_)
    rw [isPart]
    exact List.mem_map_of_mem member
  refine ⟨badge, word, Badge.names_of_folded ordinary among, isPart, isPriority, ?_⟩
  dsimp only at same
  split at same <;> rename_i joined
  · rw [if_pos joined]
    simpa using (congrArg Prod.fst same).symm
  · rw [if_neg joined]
    exact (congrArg Prod.fst same).symm

theorem TellsWords.append_written {atom : Atom} {parts : List Part}
    (isOrdinary : ∀ badge, atom ≠ .badge badge)
    (none : ¬ BeginsWhole lead (atom.written ++ parts.flatMap Part.source))
    (following : TellsWords (atom.written.getLast?.or lead) parts) :
    TellsWords lead (atom.written.map Part.kept ++ parts) := by
  refine append_kept (fun above c below split => ?_) following
  rcases written_cases isOrdinary with ⟨other, rfl, isWritten⟩ | ⟨_, isSeparator⟩
  · rw [isWritten] at split none
    have nothing : above = [] ∧ c = other ∧ below = [] := by
      simpa [List.cons_eq_append_iff] using split
    obtain ⟨rfl, rfl, rfl⟩ := nothing
    exact none
  · exact not_beginsWhole_in_separator isSeparator split

theorem TellsWords.append_letters {word : Text} {parts : List Part}
    (letters : ∀ c ∈ word, Text.isWordLetter c)
    (none : ¬ BeginsWhole lead (word ++ parts.flatMap Part.source))
    (following : TellsWords (word.getLast?.or lead) parts) :
    TellsWords lead (word.map Part.kept ++ parts) := by
  refine append_kept (fun above c below split => ?_) following
  cases last : above.getLast? with
  | none =>
      obtain rfl := List.getLast?_eq_none_iff.mp last
      rwa [split] at none
  | some other =>
      -- another word would follow a letter of this one
      intro begins
      have member : other ∈ word := by
        rw [split]
        exact List.mem_append_left _ (List.mem_of_getLast? last)
      simpa [letters other member] using begins.lead_any

theorem tellsWords_of_badges {result : List Atom}
    (made : Text.Substitution Inline.badge? id before atoms result) (bare : Bare atoms)
    (leads : lead.any Text.isWordLetter = Inline.continuesWord before) :
    ∃ parts : List Part, parts.flatMap Part.source = atoms.flatMap Atom.written ∧
      parts.flatMap Part.shown = result.flatMap Atom.written ∧ TellsWords lead parts := by
  induction made generalizing lead with
  | nil => exact ⟨[], rfl, rfl, .nil lead⟩
  | @copied _ atom rest result missed _ ih =>
      obtain ⟨isOrdinary, bareRest⟩ := bare.of_cons
      obtain ⟨parts, isSource, isShown, tells⟩ := ih bareRest (getLast_written isOrdinary lead)
      have none : ¬ BeginsWhole lead (atom.written ++ parts.flatMap Part.source) := by
        intro begins
        rw [isSource, ← List.flatMap_cons] at begins
        obtain ⟨_, _, _, found, _⟩ := priority?_of_beginsWhole bare begins
        simp [Inline.badge?, found] at missed
      refine ⟨atom.written.map .kept ++ parts, ?_, ?_, tells.append_written isOrdinary none⟩
      · rw [List.flatMap_append, (source_kept _).1, isSource, List.flatMap_cons]
      · rw [List.flatMap_append, (source_kept _).2, isShown, List.flatMap_cons, id]
  | @replaced before part rest replacement result nonempty found _ ih =>
      obtain ⟨badge, word, names, rfl, isPriority, isReplacement⟩ :=
        Inline.badge?_eq_some_of_bare bare found
      have last : (word.getLast?.or lead).any Text.isWordLetter =
          Inline.continuesWord (word.map Atom.char).getLast? := by
        rw [List.getLast?_map, List.getLast?_eq_some_getLast names.ne_nil]
        rfl
      obtain ⟨parts, isSource, isShown, tells⟩ := ih bare.of_append last
      have written : (word.map Atom.char ++ rest).flatMap Atom.written =
          word ++ parts.flatMap Part.source := by
        rw [List.flatMap_append, written_chars names.folded.2, isSource]
      by_cases joined : Inline.continuesWord before || Inline.continuesWord rest.head?
      · -- no whole word begins here, as it would be the one that was found
        have none : ¬ BeginsWhole lead (word ++ parts.flatMap Part.source) := by
          intro begins
          have notBefore := leads ▸ begins.lead_any
          rw [← written] at begins
          obtain ⟨_, _, _, found', _, notBehind⟩ := priority?_of_beginsWhole bare begins
          cases isPriority.symm.trans found'
          simp [notBefore, notBehind] at joined
        refine ⟨word.map .kept ++ parts, ?_, ?_, tells.append_letters names.folded.2 none⟩
        · rw [written, List.flatMap_append, (source_kept _).1]
        · rw [isReplacement, if_pos joined, List.flatMap_append, List.flatMap_append,
            (source_kept _).2, isShown, written_chars names.folded.2]
      · rw [if_neg joined] at isReplacement
        simp only [Bool.or_eq_true, not_or, Bool.not_eq_true] at joined
        have ends := head_written bare.of_append.unbadged
        have whole : IsWhole badge lead word (parts.flatMap Part.source).head? :=
          ⟨names, leads.trans joined.1, by rw [isSource, ends, joined.2]⟩
        refine ⟨.replaced word badge :: parts, written.symm, ?_, .cons_replaced whole tells⟩
        rw [isReplacement, List.flatMap_cons, isShown]
        rfl

end Pass

/-- A formatted line with badges is the line without them in which badges take the places of the
whole words, and of nothing else. -/
theorem badges_replace_whole_words {text : Text} (ordinary : '\u017F' ∉ text) :
    let page (badges : Badges) := (Html.render (Inline.pieces badges text)).toList
    ∃ parts : List Part,
      parts.flatMap Part.source = page .suppressed ∧
      parts.flatMap Part.shown = page .shown ∧
      ∀ above word below badge, page .suppressed = above ++ word ++ below →
        ((∃ left right, parts = left ++ .replaced word badge :: right ∧
            left.flatMap Part.source = above ∧ right.flatMap Part.source = below) ↔
          IsWhole badge above.getLast? word below.head?) := by
  intro page
  have made := Text.substitution_substitute Inline.takesPart_badge id
    (Inline.markEmphasis (Inline.markStrong text))
  have leads : Option.any Text.isWordLetter none = Inline.continuesWord none := rfl
  obtain ⟨parts, isSource, isShown, tells⟩ :=
    tellsWords_of_badges made (Bare.of_text ordinary) leads
  have isPage : parts.flatMap Part.source = page .suppressed :=
    isSource.trans (Inline.toList_render_pieces .suppressed text).symm
  refine ⟨parts, isPage, isShown.trans (Inline.toList_render_pieces .shown text).symm, ?_⟩
  intro above word below badge split
  constructor
  · intro ⟨left, right, isParts, isAbove, isBelow⟩
    have whole := tells.isWhole left word badge right isParts
    rwa [isAbove, isBelow, Option.or_none] at whole
  · intro whole
    refine tells.isPart above word below badge (isPage.trans split) ?_
    rwa [Option.or_none]

/-- Tags and entities end a word as other characters do that are not letters. -/
theorem badge_replaces_strong_word :
    let text := "**URGENT** & recommandée".toList
    let page := "<strong>URGENT</strong> &amp; recommandée".toList
    '\u017F' ∉ text ∧
      ∃ parts : List Part, parts.flatMap Part.source = page ∧
        (∃ left right, parts = left ++ .replaced "URGENT".toList .urgent :: right) ∧
        ¬ ∃ left right, parts = left ++ .replaced "recommandé".toList .recommended :: right ∧
          right.flatMap Part.source = "e".toList := by
  intro text page
  have ordinary : '\u017F' ∉ text := by decide
  obtain ⟨parts, isSource, _, tells⟩ := badges_replace_whole_words ordinary
  have isPage : (Html.render (Inline.pieces .suppressed text)).toList = page := by
    decide +kernel
  simp only [isPage] at isSource tells
  refine ⟨ordinary, parts, isSource, ?_, ?_⟩
  · have found := (tells "<strong>".toList "URGENT".toList "</strong> &amp; recommandée".toList
      .urgent (by decide)).mpr (by decide +kernel)
    obtain ⟨left, right, isParts, _⟩ := found
    exact ⟨left, right, isParts⟩
  · intro ⟨left, right, isParts, isBelow⟩
    have split : page = left.flatMap Part.source ++ "recommandé".toList ++ "e".toList := by
      rw [← isSource, isParts, List.flatMap_append, source_cons_replaced, isBelow,
        List.append_assoc]
    have whole := (tells _ _ _ .recommended split).mp ⟨left, right, isParts, rfl, isBelow⟩
    exact absurd whole.ends (by decide)

end EnergyReport.Markup
