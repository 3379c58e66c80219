import EnergyReport.Markup.Block
import EnergyReport.Proofs.Chart.Grade
import EnergyReport.Text.Alphabetic

namespace EnergyReport.Markup

/-! Which sentences get the chart of a change of grades.

An arrow between two grade letters is enough. What stands around the letters is not looked at, so
they may be the end of one word and the beginning of another. -/

open Chart.Grade (isLetter leadingLetter?)

theorem comparisonOf_ne_nil {source target : Char} (isSource : isLetter source)
    (isTarget : isLetter target) : Chart.comparisonOf [source] [target] ≠ [] := by
  obtain ⟨before, isBefore⟩ := Chart.Grade.exists_ofLetter?_of_isLetter isSource
  obtain ⟨after, isAfter⟩ := Chart.Grade.exists_ofLetter?_of_isLetter isTarget
  simp [Chart.comparisonOf, Chart.Grade.ofText?, isBefore, isAfter, Chart.Comparison.pieces,
    Html.element]

namespace Transition

def IsArrow (arrow : Text) : Prop :=
  arrow = ['→'] ∨ arrow = ['-', '>'] ∨ arrow.map Text.foldCase = "vers".toList

/-- The word that may stand before the second letter, with the blanks behind it. -/
def IsClassWord (word : Text) : Prop :=
  ∃ letters blanks, letters.map Text.foldCase = "classe".toList ∧
    (∀ c ∈ blanks, Text.isBlank c) ∧ word = letters ++ blanks

/-- An arrow between two grade letters. -/
structure Mention where
  source : Char
  gap : Text
  arrow : Text
  lead : Text
  word : Text
  target : Char
  isSource : isLetter source
  blankGap : ∀ c ∈ gap, Text.isBlank c
  isArrow : IsArrow arrow
  blankLead : ∀ c ∈ lead, Text.isBlank c
  isWord : word = [] ∨ IsClassWord word
  isTarget : isLetter target

def Mention.text (mention : Mention) : Text :=
  mention.source :: mention.gap ++ mention.arrow ++ mention.lead ++ mention.word ++
    [mention.target]

/-! ### Arrows and class words -/

variable {text rest arrow word : Text} {source target : Char}

theorem exists_head_of_folded {letter : Char} {letters more : Text}
    (folded : letters.map Text.foldCase = letter :: more) (solid : Text.isBlank letter = false) :
    ∃ c others, letters = c :: others ∧ Text.foldCase c = letter ∧ Text.isBlank c = false := by
  obtain ⟨c, others, rfl, isFirst, _⟩ := List.map_eq_cons_iff.mp folded
  refine ⟨c, others, rfl, isFirst, ?_⟩
  by_contra blank
  rw [Bool.not_eq_false] at blank
  rw [Text.foldCase_of_isBlank blank] at isFirst
  rw [isFirst, solid] at blank
  contradiction

theorem IsArrow.exists_head (isArrow : IsArrow arrow) :
    ∃ c more, arrow = c :: more ∧ Text.isBlank c = false := by
  rcases isArrow with rfl | rfl | folded
  · exact ⟨'→', [], rfl, by decide⟩
  · exact ⟨'-', ['>'], rfl, by decide⟩
  · obtain ⟨c, more, same, _, dark⟩ := exists_head_of_folded folded (by decide)
    exact ⟨c, more, same, dark⟩

theorem IsClassWord.exists_head (isWord : IsClassWord word) :
    ∃ c more, word = c :: more ∧ Text.isBlank c = false := by
  obtain ⟨letters, blanks, folded, _, rfl⟩ := isWord
  obtain ⟨c, more, rfl, _, dark⟩ := exists_head_of_folded folded (by decide)
  exact ⟨c, more ++ blanks, rfl, dark⟩

theorem stripArrow?_append (isArrow : IsArrow arrow) (rest : Text) :
    stripArrow? (arrow ++ rest) = some rest := by
  unfold stripArrow?
  rcases isArrow with rfl | rfl | folded
  · rfl
  · simp [Text.strip?]
  · have isWord : Text.stripWord? "vers".toList (arrow ++ rest) = some rest :=
      Text.stripWord?_eq_some_iff.mpr ⟨arrow, folded, rfl⟩
    obtain ⟨c, more, rfl, isV, _⟩ := exists_head_of_folded folded (by decide)
    have folds : Text.foldCase '→' ≠ 'v' ∧ Text.foldCase '-' ≠ 'v' := by decide
    have noArrow : c ≠ '→' := fun same => folds.1 (same ▸ isV)
    have noDash : c ≠ '-' := fun same => folds.2 (same ▸ isV)
    rw [isWord]
    simp [Text.strip?, noArrow, noDash]

theorem stripArrow?_eq_some_iff :
    stripArrow? text = some rest ↔ ∃ arrow, IsArrow arrow ∧ text = arrow ++ rest := by
  constructor
  · intro found
    unfold stripArrow? at found
    split at found
    · rename_i stripped
      cases found
      exact ⟨['→'], .inl rfl, Text.strip?_eq_some_iff.mp stripped⟩
    · split at found
      · rename_i stripped
        cases found
        exact ⟨['-', '>'], .inr (.inl rfl), Text.strip?_eq_some_iff.mp stripped⟩
      · obtain ⟨arrow, folded, same⟩ := Text.stripWord?_eq_some_iff.mp found
        exact ⟨arrow, .inr (.inr folded), same⟩
  · intro found
    obtain ⟨arrow, isArrow, rfl⟩ := found
    exact stripArrow?_append isArrow rest

/-! ### The letter behind the arrow -/

def classTarget? (text : Text) : Option Char :=
  (Text.stripWord? "classe".toList text).bind fun rest => leadingLetter? (Text.trimStart rest)

theorem target?_eq_or (text : Text) :
    target? text =
      (classTarget? (Text.trimStart text)).or (leadingLetter? (Text.trimStart text)) := by
  simp only [target?, classTarget?]
  cases Text.stripWord? "classe".toList (Text.trimStart text) with
  | none => rfl
  | some rest =>
      simp only [Option.bind_some]
      cases leadingLetter? (Text.trimStart rest) <;> rfl

theorem classTarget?_eq_some_iff :
    classTarget? text = some target ↔
      isLetter target ∧ ∃ word rest, IsClassWord word ∧ text = word ++ target :: rest := by
  simp only [classTarget?, Option.bind_eq_some_iff, Text.stripWord?_eq_some_iff,
    Chart.Grade.leadingLetter?_trimStart_eq_some_iff]
  constructor
  · intro found
    obtain ⟨_, ⟨letters, folded, rfl⟩, blanks, rest, blank, isTarget, rfl⟩ := found
    exact ⟨isTarget, letters ++ blanks, rest, ⟨letters, blanks, folded, blank, rfl⟩, by simp⟩
  · intro found
    obtain ⟨isTarget, _, rest, ⟨letters, blanks, folded, blank, rfl⟩, rfl⟩ := found
    refine ⟨blanks ++ target :: rest, ⟨letters, folded, by simp⟩, ?_⟩
    exact ⟨blanks, rest, blank, isTarget, rfl⟩

/-- A letter that is found comes behind a class word, unless no letter does. -/
theorem exists_parts_of_target? (found : target? text = some target) :
    isLetter target ∧ ∃ lead word rest, (∀ c ∈ lead, Text.isBlank c) ∧
      text = lead ++ word ++ target :: rest ∧
      (IsClassWord word ∨ word = [] ∧ classTarget? (Text.trimStart text) = none) := by
  obtain ⟨lead, blank, split⟩ := Text.exists_blanks_append_trimStart text
  rw [target?_eq_or, Option.or_eq_some_iff] at found
  rcases found with behindWord | ⟨noWord, leading⟩
  · obtain ⟨isTarget, word, rest, isWord, parts⟩ := classTarget?_eq_some_iff.mp behindWord
    refine ⟨isTarget, lead, word, rest, blank, ?_, .inl isWord⟩
    rw [List.append_assoc, ← parts]
    exact split
  · obtain ⟨isTarget, rest, parts⟩ := Chart.Grade.leadingLetter?_eq_some_iff.mp leading
    refine ⟨isTarget, lead, [], rest, blank, ?_, .inr ⟨rfl, noWord⟩⟩
    rw [List.append_nil, ← parts]
    exact split

theorem at?_cons (c : Char) (rest : Text) :
    at? (c :: rest) =
      if isLetter c then
        (stripArrow? (Text.trimStart rest)).bind fun behind => (target? behind).map (c, ·)
      else none := by
  cases named : isLetter c
  · simp [at?, named]
  · simp only [at?, named, Bool.not_true, Bool.false_eq_true, if_true, if_false, Option.pure_def,
      Option.bind_eq_bind, Option.map_eq_bind, Function.comp_def]

namespace Mention

variable (mention : Mention)

theorem text_append (rest : Text) :
    mention.text ++ rest =
      mention.source :: (mention.gap ++ mention.arrow ++
        (mention.lead ++ mention.word ++ mention.target :: rest)) := by
  simp [text]

variable {mention} in
theorem classTarget?_word (worded : mention.word ≠ []) (rest : Text) :
    classTarget? (mention.word ++ mention.target :: rest) = some mention.target := by
  apply classTarget?_eq_some_iff.mpr
  exact ⟨mention.isTarget, mention.word, rest, mention.isWord.resolve_left worded, rfl⟩

theorem trimStart_target (rest : Text) :
    Text.trimStart (mention.lead ++ mention.word ++ mention.target :: rest) =
      mention.word ++ mention.target :: rest := by
  rw [List.append_assoc, Text.trimStart_append mention.blankLead]
  cases mention.isWord with
  | inl noWord =>
      rw [noWord]
      exact Text.trimStart_cons (Chart.Grade.isBlank_of_isLetter mention.isTarget)
  | inr isWord =>
      obtain ⟨c, more, same, dark⟩ := isWord.exists_head
      rw [same]
      exact Text.trimStart_cons dark

theorem exists_target? (rest : Text) :
    ∃ target, target? (mention.lead ++ mention.word ++ mention.target :: rest) = some target := by
  rw [target?_eq_or, mention.trimStart_target]
  by_cases noWord : mention.word = []
  · rw [noWord, List.nil_append, leadingLetter?, mention.isTarget]
    cases classTarget? (mention.target :: rest) with
    | none => exact ⟨mention.target, rfl⟩
    | some target => exact ⟨target, rfl⟩
  · rw [classTarget?_word noWord]
    exact ⟨mention.target, rfl⟩

theorem stripArrow?_gap (rest : Text) :
    stripArrow? (Text.trimStart (mention.gap ++ mention.arrow ++ rest)) = some rest := by
  obtain ⟨c, more, same, dark⟩ := mention.isArrow.exists_head
  rw [List.append_assoc, Text.trimStart_append mention.blankGap, same, List.cons_append,
    Text.trimStart_cons dark, ← List.cons_append, ← same]
  exact stripArrow?_append mention.isArrow rest

theorem at?_text_append (rest : Text) :
    at? (mention.text ++ rest) =
      (target? (mention.lead ++ mention.word ++ mention.target :: rest)).map
        (mention.source, ·) := by
  rw [text_append, at?_cons, if_pos mention.isSource, mention.stripArrow?_gap, Option.bind_some]

end Mention

theorem exists_parts_of_at? (found : at? text = some (source, target)) :
    ∃ gap arrow behind, text = source :: (gap ++ arrow ++ behind) ∧ isLetter source ∧
      (∀ c ∈ gap, Text.isBlank c) ∧ IsArrow arrow ∧ target? behind = some target := by
  cases text with
  | nil => contradiction
  | cons c rest =>
      rw [at?_cons] at found
      split at found
      · rename_i named
        obtain ⟨behind, stripped, isTarget⟩ := Option.bind_eq_some_iff.mp found
        obtain ⟨_, isTarget, same⟩ := Option.map_eq_some_iff.mp isTarget
        cases same
        obtain ⟨arrow, isArrow, split⟩ := stripArrow?_eq_some_iff.mp stripped
        obtain ⟨gap, blank, parts⟩ := Text.exists_blanks_append_trimStart rest
        refine ⟨gap, arrow, behind, ?_, named, blank, isArrow, isTarget⟩
        rw [List.append_assoc, ← split, ← parts]
      · contradiction

/-- What is found at the beginning of a text is a mention. Its second letter comes behind a class
word where another mention there has one. -/
theorem exists_mention_of_at? (found : at? text = some (source, target)) :
    ∃ mention : Mention, mention.source = source ∧ mention.target = target ∧
      mention.text <+: text ∧
      ∀ other : Mention, other.text <+: text → other.word ≠ [] → mention.word ≠ [] := by
  obtain ⟨gap, arrow, behind, rfl, isSource, blankGap, isArrow, isTarget⟩ :=
    exists_parts_of_at? found
  obtain ⟨isLetter, lead, word, rest, blankLead, rfl, isWord⟩ := exists_parts_of_target? isTarget
  let mention : Mention :=
    { source, gap, arrow, lead, word, target, isSource, blankGap, isArrow, blankLead,
      isWord := isWord.symm.imp_left And.left, isTarget := isLetter }
  refine ⟨mention, rfl, rfl, ⟨rest, by simp [Mention.text, mention]⟩, ?_⟩
  intro other begins worded
  obtain ⟨rest', same⟩ := begins
  -- Both mentions have the same arrow, so the same text is behind it.
  rw [other.text_append] at same
  obtain ⟨_, same⟩ := List.cons.inj same
  have behind := other.stripArrow?_gap (other.lead ++ other.word ++ other.target :: rest')
  rw [same, mention.stripArrow?_gap, Option.some.injEq] at behind
  rcases isWord with classWord | ⟨_, noTarget⟩
  · obtain ⟨c, more, nonempty, _⟩ := classWord.exists_head
    simp [mention, nonempty]
  · rw [behind, other.trimStart_target, Mention.classTarget?_word worded] at noTarget
    contradiction

theorem at?_eq_none_iff : at? text = none ↔ ∀ mention : Mention, ¬ mention.text <+: text := by
  constructor
  · intro missed mention begins
    obtain ⟨rest, rfl⟩ := begins
    obtain ⟨target, found⟩ := mention.exists_target? rest
    rw [mention.at?_text_append, found] at missed
    contradiction
  · intro absent
    rw [Option.eq_none_iff_forall_ne_some]
    intro letters found
    obtain ⟨mention, _, _, begins, _⟩ := exists_mention_of_at? found
    exact absent mention begins

/-! ### The first mention -/

/-- A mention that no other one precedes. At its place, one with a class word goes before one
without. -/
structure IsFirst (line above : Text) (mention : Mention) : Prop where
  within : above ++ mention.text <+: line
  first : ∀ above' (other : Mention), above' ++ other.text <+: line →
    above.length ≤ above'.length
  worded : ∀ other : Mention, above ++ other.text <+: line → other.word ≠ [] → mention.word ≠ []

variable {line : Text}

theorem exists_isFirst_of_find? (found : find? line = some (source, target)) :
    ∃ above mention, IsFirst line above mention ∧ mention.source = source ∧
      mention.target = target := by
  obtain ⟨start, within, there, none⟩ := Text.firstMatch_eq_some_iff.mp found
  obtain ⟨mention, isSource, isTarget, begins, worded⟩ := exists_mention_of_at? there
  have atStart (text : Text) : line.take start ++ text <+: line ↔ text <+: line.drop start := by
    have inLine : line.take start ++ text <+: line.take start ++ line.drop start ↔
        text <+: line.drop start := List.prefix_append_right_inj _
    rwa [List.take_append_drop] at inLine
  refine ⟨line.take start, mention, ⟨(atStart _).mpr begins, ?_, ?_⟩, isSource, isTarget⟩
  · intro above other stands
    obtain ⟨below, rfl⟩ := stands
    by_contra later
    rw [List.length_take_of_le (Nat.le_of_lt within)] at later
    have missed := none above.length (Nat.lt_of_not_le later)
    rw [List.append_assoc, List.drop_left] at missed
    exact at?_eq_none_iff.mp missed other (List.prefix_append _ _)
  · intro other stands
    exact worded other ((atStart _).mp stands)

theorem find?_eq_none_iff : find? line = none ↔ ∀ mention : Mention, ¬ mention.text <:+: line := by
  rw [find?, Text.firstMatch_eq_none_iff]
  constructor
  · intro nowhere mention stands
    obtain ⟨above, below, rfl⟩ := stands
    have missed := nowhere above.length (by simp [Mention.text])
    rw [List.append_assoc, List.drop_left] at missed
    exact at?_eq_none_iff.mp missed mention (List.prefix_append _ _)
  · intro absent start _
    apply at?_eq_none_iff.mpr
    intro mention begins
    exact absent mention (begins.isInfix.trans (List.drop_suffix start line).isInfix)

end Transition

/-- A line gets the chart exactly where it mentions a change somewhere and does not begin like a
table row. The chart shows the first change that it mentions. -/
theorem comparison_of_first_mention (line : Text) :
    (Block.transitionChart line ≠ [] ↔
      line.head? ≠ some '|' ∧ ∃ mention : Transition.Mention, mention.text <:+: line) ∧
    (Block.transitionChart line = [] ∨ ∃ above mention, Transition.IsFirst line above mention ∧
      Block.transitionChart line = Chart.comparisonOf [mention.source] [mention.target]) := by
  unfold Block.transitionChart
  by_cases row : line.head? = some '|'
  · simp [row]
  · rw [if_neg row]
    cases found : Transition.find? line with
    | none =>
        have absent := Transition.find?_eq_none_iff.mp found
        simp [absent]
    | some letters =>
        obtain ⟨source, target⟩ := letters
        obtain ⟨above, mention, isFirst, rfl, rfl⟩ := Transition.exists_isFirst_of_find? found
        have stands : mention.text <:+: line :=
          (List.suffix_append _ _).isInfix.trans isFirst.within.isInfix
        have chart := comparisonOf_ne_nil mention.isSource mention.isTarget
        refine ⟨⟨fun _ => ⟨row, mention, stands⟩, fun _ => chart⟩, .inr ?_⟩
        exact ⟨above, mention, isFirst, rfl⟩

/-! ### Letters of other words -/

/-- Whether a text ends with one of some words, in any case, or with no letter. -/
def EndsWord (words : List Text) (text : Text) : Prop :=
  (∃ word ∈ words, word <:+ text.map Text.foldCase) ∨
    ∀ c ∈ text.getLast?, Text.isAlphabetic c = false

/-- Whether the two letters of a mention are words of their own, given what stands before the
mention and behind it. -/
structure Transition.Mention.StandsAlone (mention : Transition.Mention) (above below : Text) :
    Prop where
  beforeSource : EndsWord ["classe".toList, "class".toList] above
  behindSource : ∀ c ∈ (mention.gap ++ mention.arrow).head?, Text.isAlphabetic c = false
  beforeTarget : mention.word ≠ [] ∨ EndsWord [] (mention.arrow ++ mention.lead)
  behindTarget : ∀ c ∈ below.head?, Text.isAlphabetic c = false

def heatingLine : Text :=
  "Chauffage électrique → bois".toList

/-- The last letter of the one word and the first letter of the other are shown as grades. -/
theorem not_mentions_stand_alone :
    ¬ ∀ line, Block.transitionChart line ≠ [] → ∃ above mention below,
      line = above ++ mention.text ++ below ∧
        Transition.Mention.StandsAlone mention above below := by
  intro alone
  have charted : Block.transitionChart heatingLine ≠ [] := by decide +kernel
  obtain ⟨above, mention, below, parts, standsAlone⟩ := alone heatingLine charted
  have onlyPlace : ∀ start < heatingLine.length, start ≠ 19 →
      Transition.at? (heatingLine.drop start) = none := by
    decide +kernel
  have place : above.length = 19 := by
    by_contra elsewhere
    have missed := onlyPlace above.length (by simp [parts, Transition.Mention.text]) elsewhere
    rw [parts, List.append_assoc, List.drop_left] at missed
    exact Transition.at?_eq_none_iff.mp missed mention (List.prefix_append _ _)
  have isAbove : above = heatingLine.take 19 := by
    rw [parts, ← place, List.append_assoc, List.take_left]
  have left := standsAlone.beforeSource
  rw [isAbove] at left
  cases left with
  | inl isWord =>
      revert isWord
      decide +kernel
  | inr letterless =>
      have isLetter : 'u'.isAlpha := by decide
      have noLetter := letterless 'u' (by decide +kernel)
      simp [Text.isAlphabetic, isLetter] at noLetter

end EnergyReport.Markup
