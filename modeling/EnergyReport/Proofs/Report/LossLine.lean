import EnergyReport.Proofs.Report.Insertion
import EnergyReport.Proofs.Report.Phrase
import EnergyReport.Proofs.Text.Search

namespace EnergyReport.Report.Injection

/-! What an analysis tells when the line of its chart stands in front of it.

The line holds the words of the categories that are found, so a table is looked for from there too:
those categories take the digits of the first cell of the analysis. A sentence is not found from
the line, since its own digits have no percent sign. -/

/-- The number that the digits of a percentage write. -/
def percentageOf? (digits : Text) : Option Nat := do
  let value ← Text.natural? digits
  if value < percentageLimit then return value else none

/-- The digits of the first cell that a text has. -/
def firstCell? (text : Text) : Option Text := do
  let cell ← afterBar? text
  leadingDigits? (Text.trimStart cell)

/-- The digits that a table gives for a keyword at the beginning of a text. -/
def cellAfter? (keyword : List Text) (text : Text) : Option Text :=
  (afterCompound? keyword text).bind firstCell?

theorem percentage?_eq (keyword : List Text) (text : Text) :
    percentage? keyword text = (keywordDigits? keyword text).bind percentageOf? :=
  rfl

theorem tableDigits?_eq (keyword : List Text) (text : Text) :
    tableDigits? keyword text = Text.firstMatch (cellAfter? keyword) text :=
  rfl

/-- The digits of the percentage soon after a place. -/
def percentAfter? (after : Text) : Option Text := do
  let gap := (after.take (proseGap + 1)).takeWhile fun c => !Text.isDigit c
  if proseGap < gap.length then none
  let value := after.drop gap.length
  let digits ← leadingDigits? value
  let _ ← Text.strip? ['%'] (Text.trimStart (value.drop digits.length))
  return digits

theorem proseDigits?_eq (keyword : List Text) (text : Text) :
    proseDigits? keyword text =
      Text.firstMatch (fun place => (afterCompound? keyword place).bind percentAfter?) text :=
  rfl

/-- Digits are followed by what is neither a blank nor a percent sign. -/
abbrev Separated (c next : Char) : Prop :=
  Text.isDigit c → Text.isDigit next ∨ Text.isBlank next = false ∧ next ≠ '%'

/-- A line in which the last word is followed by digits, and no digits by a percent sign. -/
structure ListsNumbers (line : Text) : Prop where
  oneLine : '\n' ∉ line
  barless : '|' ∉ line
  closed : ∃ before digit after, line = before ++ digit :: after ∧ digit.isDigit ∧
    ∀ c ∈ digit :: after, (Text.foldCase c).isLower = false
  separated : line.IsChain Separated
  ends : ∀ c ∈ line.getLast?, Text.isDigit c = false

/-- Whether the words of a keyword are made of small letters. -/
def isKeyword (keyword : List Text) : Bool :=
  !keyword.isEmpty && keyword.all fun word => !word.isEmpty && word.all Char.isLower

section Line

variable {line part word after analysis : Text}

/-- A word that begins in the line ends in it, and digits follow in the line. -/
theorem exists_suffix_of_stripWord (numbers : ListsNumbers line) (within : part <:+ line)
    (nonempty : word ≠ []) (small : ∀ letter ∈ word, letter.isLower)
    (found : Text.stripWord? word (part ++ '\n' :: analysis) = some after) :
    ∃ behind, behind <:+ part ∧ (∃ digit ∈ behind, digit.isDigit) ∧
      after = behind ++ '\n' :: analysis := by
  obtain ⟨taken, folded, parts⟩ := Text.stripWord?_eq_some_iff.mp found
  have letters : ∀ c ∈ taken, (Text.foldCase c).isLower := fun c member =>
    small _ (folded ▸ List.mem_map_of_mem member)
  have noFeed : '\n' ∉ taken := fun member => absurd (letters _ member) (by decide)
  obtain ⟨behind, rfl⟩ : taken <+: part :=
    (Text.prefix_append_cons_iff noFeed part analysis).mp ⟨after, parts.symm⟩
  rw [List.append_assoc, List.append_cancel_left_eq] at parts
  refine ⟨behind, List.suffix_append _ _, ?_, parts.symm⟩
  obtain ⟨before, digit, tail, rfl, isDigit, noLetters⟩ := numbers.closed
  have closing : digit :: tail <:+ before ++ digit :: tail := List.suffix_append _ _
  by_cases reaches : (digit :: tail).length ≤ behind.length
  · have inside : digit :: tail <:+ behind :=
      List.suffix_of_suffix_length_le closing ((List.suffix_append _ _).trans within) reaches
    exact ⟨digit, inside.subset List.mem_cons_self, isDigit⟩
  · -- the last letter of the word would stand behind the digits
    obtain ⟨first, c, rfl⟩ : ∃ first c, taken = first ++ [c] := by
      refine (List.eq_nil_or_concat' taken).resolve_left ?_
      rintro rfl
      exact nonempty folded.symm
    have inLine : c :: behind <:+ before ++ digit :: tail := by
      refine List.IsSuffix.trans ⟨first, ?_⟩ within
      simp
    have inside : c :: behind <:+ digit :: tail :=
      List.suffix_of_suffix_length_le inLine closing (by simp at reaches ⊢; omega)
    have letter := letters c (by simp)
    rw [noLetters c (inside.subset List.mem_cons_self)] at letter
    contradiction

theorem trimStart_append_of_digit {digit : Char} (member : digit ∈ part) (isDigit : digit.isDigit)
    (rest : Text) : Text.trimStart (part ++ rest) = Text.trimStart part ++ rest := by
  have dark := isBlank_of_isSolid (isSolid_of_isDigit isDigit)
  have some : Text.trimStart part ≠ [] := by
    intro none
    have blank := List.dropWhile_eq_nil_iff.mp none digit member
    rw [dark] at blank
    contradiction
  rw [Text.trimStart, List.dropWhile_append, if_neg (by simpa [Text.trimStart] using some)]
  rfl

theorem exists_suffix_of_afterCompound (numbers : ListsNumbers line) {keyword : List Text}
    (legal : isKeyword keyword) (within : part <:+ line)
    (found : afterCompound? keyword (part ++ '\n' :: analysis) = some after) :
    ∃ behind, behind <:+ part ∧ (∃ digit ∈ behind, digit.isDigit) ∧
      after = behind ++ '\n' :: analysis := by
  induction keyword generalizing part with
  | nil => contradiction
  | cons word others ih =>
      have wordLegal : word ≠ [] ∧ ∀ letter ∈ word, letter.isLower := by
        simp only [isKeyword, List.all_cons, Bool.and_eq_true, Bool.not_eq_true',
          List.all_eq_true] at legal
        exact ⟨by simpa using legal.2.1.1, legal.2.1.2⟩
      cases others with
      | nil => exact exists_suffix_of_stripWord numbers within wordLegal.1 wordLegal.2 found
      | cons next more =>
          simp only [afterCompound?] at found
          split at found
          · rename_i afterWord stripped
            obtain ⟨behind, inPart, ⟨digit, member, isDigit⟩, rfl⟩ :=
              exists_suffix_of_stripWord numbers within wordLegal.1 wordLegal.2 stripped
            have trimmed : Text.trimStart behind <:+ behind := List.dropWhile_suffix _
            rw [trimStart_append_of_digit member isDigit] at found
            have othersLegal : isKeyword (next :: more) := by
              simp only [isKeyword, List.all_cons, Bool.and_eq_true] at legal ⊢
              exact ⟨rfl, legal.2.2⟩
            obtain ⟨last, inBehind, digits, rfl⟩ :=
              ih othersLegal ((trimmed.trans inPart).trans within) found
            exact ⟨last, (inBehind.trans trimmed).trans inPart, digits, rfl⟩
          · contradiction

theorem afterBar?_append {front : Text} (barless : '|' ∉ front) (rest : Text) :
    afterBar? (front ++ rest) = afterBar? rest := by
  have before : ∀ c ∈ front, decide (c ≠ '|') = true := by
    intro c member
    rw [decide_eq_true_eq]
    rintro rfl
    exact barless member
  rw [afterBar?, afterBar?, List.dropWhile_append_of_pos before]

/-- The line has no cell, so from a place in it the first cell of the analysis is found. -/
theorem firstCell?_of_afterCompound (numbers : ListsNumbers line) {keyword : List Text}
    (legal : isKeyword keyword) (within : part <:+ line)
    (found : afterCompound? keyword (part ++ '\n' :: analysis) = some after) :
    firstCell? after = firstCell? analysis := by
  obtain ⟨behind, inPart, _, rfl⟩ := exists_suffix_of_afterCompound numbers legal within found
  have barless : '|' ∉ behind ++ ['\n'] := by
    simp only [List.mem_append, List.mem_singleton, Char.reduceEq, or_false]
    exact fun member => numbers.barless ((inPart.trans within).subset member)
  have moved := afterBar?_append barless analysis
  rw [List.append_assoc, List.singleton_append] at moved
  rw [firstCell?, firstCell?, moved]

theorem drop_append_newline {start : Nat} (inLine : start ≤ line.length) :
    (line ++ '\n' :: analysis).drop start = line.drop start ++ '\n' :: analysis :=
  List.drop_append_of_le_length inLine

theorem lt_length_append_newline {start : Nat} (inLine : start ≤ line.length) :
    start < (line ++ '\n' :: analysis).length := by
  rw [List.length_append, List.length_cons]
  omega

/-- A table that is found from the line gives the first cell of the analysis. -/
theorem eq_firstCell_of_line (numbers : ListsNumbers line) {keyword : List Text}
    (legal : isKeyword keyword) {start : Nat} (inLine : start ≤ line.length) {digits : Text}
    (there : cellAfter? keyword ((line ++ '\n' :: analysis).drop start) = some digits) :
    firstCell? analysis = some digits := by
  obtain ⟨after, found, cell⟩ := Option.bind_eq_some_iff.mp there
  rw [drop_append_newline inLine] at found
  rw [← firstCell?_of_afterCompound numbers legal (List.drop_suffix _ _) found, cell]

theorem tableDigits?_append (numbers : ListsNumbers line) {keyword : List Text}
    (legal : isKeyword keyword) :
    tableDigits? keyword (line ++ '\n' :: analysis) = tableDigits? keyword analysis ∨
      ∃ digits, firstCell? analysis = some digits ∧
        tableDigits? keyword (line ++ '\n' :: analysis) = some digits := by
  by_cases fromLine : ∃ start ≤ line.length, ∃ digits,
      cellAfter? keyword ((line ++ '\n' :: analysis).drop start) = some digits
  · obtain ⟨start, inLine, digits, there⟩ := fromLine
    obtain ⟨first, before, found, isFirst, atFirst⟩ :=
      Text.exists_firstMatch_le (lt_length_append_newline inLine) there
    exact .inr ⟨found, eq_firstCell_of_line numbers legal (before.trans inLine) atFirst, isFirst⟩
  · left
    have split := List.append_cons line '\n' analysis
    rw [tableDigits?_eq, tableDigits?_eq, split]
    refine Text.firstMatch_append_left fun start within => ?_
    rw [Option.eq_none_iff_forall_ne_some]
    intro digits there
    rw [← split] at there
    exact fromLine ⟨start, by simpa [Nat.lt_succ_iff] using within, digits, there⟩

/-- A word of the line takes the first cell of the analysis. -/
theorem tableDigits?_of_mem (numbers : ListsNumbers line) (legal : isKeyword [word])
    {before taken behind : Text} (parts : line = before ++ (taken ++ behind))
    (folded : taken.map Text.foldCase = word) {digits : Text}
    (cell : firstCell? analysis = some digits) :
    tableDigits? [word] (line ++ '\n' :: analysis) = some digits := by
  have inLine : before.length ≤ line.length := by simp [parts]
  have compound : afterCompound? [word] ((line ++ '\n' :: analysis).drop before.length) =
      some (behind ++ '\n' :: analysis) := by
    rw [drop_append_newline inLine, parts, List.drop_left]
    exact Text.stripWord?_eq_some_iff.mpr ⟨taken, folded, by simp⟩
  have there : cellAfter? [word] ((line ++ '\n' :: analysis).drop before.length) = some digits := by
    rw [cellAfter?, compound, Option.bind_some]
    rw [drop_append_newline inLine] at compound
    rw [firstCell?_of_afterCompound numbers legal (List.drop_suffix _ _) compound, cell]
  obtain ⟨first, earlier, found, isFirst, atFirst⟩ :=
    Text.exists_firstMatch_le (lt_length_append_newline inLine) there
  have same := eq_firstCell_of_line numbers legal (earlier.trans inLine) atFirst
  rw [tableDigits?_eq, isFirst, ← same, cell]

/-- A run of digits, and what it ends at. -/
theorem exists_run {digit : Char} {rest : Text} (separated : (digit :: rest).IsChain Separated)
    (ends : ∀ c ∈ (digit :: rest).getLast?, Text.isDigit c = false) (isDigit : Text.isDigit digit) :
    ∃ run c more, rest = run ++ c :: more ∧ (∀ x ∈ run, Text.isDigit x) ∧
      Text.isDigit c = false ∧ Text.isBlank c = false ∧ c ≠ '%' := by
  induction rest generalizing digit with
  | nil => simp [isDigit] at ends
  | cons next rest ih =>
      obtain ⟨follows, separated⟩ := List.isChain_cons_cons.mp separated
      cases other : Text.isDigit next with
      | false =>
          obtain ⟨dark, sign⟩ := (follows isDigit).resolve_left (by simp [other])
          exact ⟨[], next, rest, rfl, by simp, other, dark, sign⟩
      | true =>
          obtain ⟨run, c, more, rfl, digits, stop⟩ := ih separated (by simpa using ends) other
          exact ⟨next :: run, c, more, rfl, List.forall_mem_cons.mpr ⟨other, digits⟩, stop⟩

/-- The first digits of a text, and what they end at. -/
theorem exists_digits {text : Text} (separated : text.IsChain Separated)
    (ends : ∀ c ∈ text.getLast?, Text.isDigit c = false)
    (some : ∃ digit ∈ text, Text.isDigit digit) :
    ∃ gap digit run c more, text = gap ++ digit :: (run ++ c :: more) ∧
      (∀ x ∈ gap, Text.isDigit x = false) ∧ (∀ x ∈ digit :: run, Text.isDigit x) ∧
      Text.isDigit c = false ∧ Text.isBlank c = false ∧ c ≠ '%' := by
  induction text with
  | nil => simp at some
  | cons first rest ih =>
      cases isDigit : Text.isDigit first with
      | true =>
          obtain ⟨run, c, more, rfl, digits, stop⟩ := exists_run separated ends isDigit
          exact ⟨[], first, run, c, more, rfl, by simp,
            List.forall_mem_cons.mpr ⟨isDigit, digits⟩, stop⟩
      | false =>
          obtain ⟨digit, member, isOther⟩ := some
          have inRest : digit ∈ rest := by
            refine (List.mem_cons.mp member).resolve_left ?_
            rintro rfl
            simp [isDigit] at isOther
          have nonempty : rest ≠ [] := List.ne_nil_of_mem inRest
          obtain ⟨gap, other, run, c, more, rfl, noDigits, stop⟩ := ih separated.tail
            (by rwa [List.getLast?_cons_of_ne_nil nonempty] at ends) ⟨digit, inRest, isOther⟩
          exact ⟨first :: gap, other, run, c, more, rfl,
            List.forall_mem_cons.mpr ⟨isDigit, noDigits⟩, stop⟩

/-- Digits that do not end at a percent sign are no percentage. -/
theorem percentAfter?_eq_none {gap run more : Text} {digit c : Char}
    (noDigits : ∀ x ∈ gap, Text.isDigit x = false) (digits : ∀ x ∈ digit :: run, Text.isDigit x)
    (stop : Text.isDigit c = false) (dark : Text.isBlank c = false) (sign : c ≠ '%') :
    percentAfter? (gap ++ digit :: (run ++ c :: more)) = none := by
  have skipped : ∀ x ∈ gap, (!Text.isDigit x) = true := fun x member => by
    simp [noDigits x member]
  by_cases near : gap.length ≤ proseGap
  · obtain ⟨room, isRoom⟩ : ∃ room, proseGap + 1 - gap.length = room + 1 :=
      ⟨proseGap - gap.length, by omega⟩
    have isGap : ((gap ++ digit :: (run ++ c :: more)).take (proseGap + 1)).takeWhile
        (fun c => !Text.isDigit c) = gap := by
      rw [List.take_append, isRoom, List.take_of_length_le (by omega), List.take_succ_cons,
        List.takeWhile_append_of_pos skipped]
      simp [digits digit]
    have leading : leadingDigits? (digit :: (run ++ c :: more)) = some (digit :: run) := by
      have taken : (digit :: (run ++ c :: more)).takeWhile Text.isDigit = digit :: run := by
        rw [← List.cons_append, List.takeWhile_append_of_pos digits]
        simp [stop]
      rw [leadingDigits?, taken]
    have rest : (digit :: (run ++ c :: more)).drop (digit :: run).length = c :: more := by
      rw [← List.cons_append, List.drop_left]
    simp only [percentAfter?, isGap, if_neg (Nat.not_lt.mpr near), List.drop_left, leading, rest,
      Option.bind_eq_bind, Option.bind_some, Text.trimStart_cons dark]
    simp [Text.strip?, sign]
  · have isGap : ((gap ++ digit :: (run ++ c :: more)).take (proseGap + 1)).takeWhile
        (fun c => !Text.isDigit c) = gap.take (proseGap + 1) := by
      rw [List.take_append_of_le_length (by omega), List.takeWhile_eq_self_iff]
      exact fun x member => skipped x (List.mem_of_mem_take member)
    have far : proseGap < (gap.take (proseGap + 1)).length := by
      rw [List.length_take]
      omega
    simp only [percentAfter?, isGap, if_pos far]
    rfl

/-- The digits behind a place in the line are no percentage. -/
theorem proseDigits?_append (numbers : ListsNumbers line) {keyword : List Text}
    (legal : isKeyword keyword) :
    proseDigits? keyword (line ++ '\n' :: analysis) = proseDigits? keyword analysis := by
  have split := List.append_cons line '\n' analysis
  rw [proseDigits?_eq, proseDigits?_eq, split]
  refine Text.firstMatch_append_left fun start within => ?_
  have inLine : start ≤ line.length := by simpa [Nat.lt_succ_iff] using within
  rw [← split, drop_append_newline inLine, Option.bind_eq_none_iff]
  intro after found
  obtain ⟨behind, inPart, ⟨digit, member, isDigit⟩, rfl⟩ :=
    exists_suffix_of_afterCompound numbers legal (List.drop_suffix _ _) found
  obtain ⟨front, isLine⟩ := inPart.trans (List.drop_suffix start line)
  have separated : behind.IsChain Separated := by
    have whole := numbers.separated
    rw [← isLine] at whole
    exact whole.right_of_append
  have ends : ∀ c ∈ behind.getLast?, Text.isDigit c = false := by
    have whole := numbers.ends
    rwa [← isLine, List.getLast?_append_of_ne_nil _ (List.ne_nil_of_mem member)] at whole
  have isDigit' : Text.isDigit digit := by simp [Text.isDigit, isDigit]
  obtain ⟨gap, first, run, c, more, rfl, noDigits, digits, stop, dark, sign⟩ :=
    exists_digits separated ends ⟨digit, member, isDigit'⟩
  have none := @percentAfter?_eq_none gap run (more ++ '\n' :: analysis) first c noDigits
    digits stop dark sign
  simpa using none

end Line

section Written

variable {found : List (Chart.LossCategory × Nat)}

theorem key_infix_writeLosses {category : Chart.LossCategory} {value : Nat}
    (member : (category, value) ∈ found) :
    category.key <:+:
      Markup.Directive.write Markup.lossesName (Json.writeObject (lossMembers found)) := by
  have written : Json.writeMember (category.key, .natural value) ∈
      (lossMembers found).map Json.writeMember :=
    List.mem_map_of_mem (List.mem_map.mpr ⟨_, member, rfl⟩)
  have inObject : category.key <:+: Json.writeObject (lossMembers found) := by
    have inMember : category.key <:+: Json.writeMember (category.key, .natural value) :=
      ⟨['"'], '"' :: ':' :: (Json.Scalar.natural value).write, by
        simp [Json.writeMember, Json.writeText]⟩
    have inMembers : category.key <:+:
        List.intercalate [','] ((lossMembers found).map Json.writeMember) :=
      inMember.trans (Text.infix_intercalate written)
    exact inMembers.trans ⟨['\x7b'], ['\x7d'], rfl⟩
  refine inObject.trans ⟨Markup.Directive.commentStart ++ [' '] ++ Markup.Directive.namePart ++
    Markup.lossesName ++ [':'], [' '] ++ Markup.Directive.commentEnd, ?_⟩
  simp [Markup.Directive.write]

/-- A number is written with at least one digit, and its last one is no letter. -/
theorem exists_toDigits (value : Nat) :
    ∃ run digit, Nat.toDigits 10 value = run ++ [digit] ∧ digit.isDigit ∧
      (Text.foldCase digit).isLower = false := by
  have nonempty : Nat.toDigits 10 value ≠ [] := List.ne_nil_of_length_pos Nat.length_toDigits_pos
  obtain ⟨run, digit, isRun⟩ := (List.eq_nil_or_concat' _).resolve_left nonempty
  have inNumber : digit ∈ Nat.toDigits 10 value := by simp [isRun]
  have isDigit : digit.isDigit := Nat.isDigit_of_mem_toDigits (by decide) (by decide) inNumber
  refine ⟨run, digit, isRun, isDigit, ?_⟩
  rw [Text.foldCase_of_isDigit isDigit]
  have range := Text.toNat_of_isDigit isDigit
  by_contra lower
  rw [Bool.not_eq_false] at lower
  have small := Text.toNat_of_isLower lower
  omega

/-- The line of the loss chart lists its numbers behind their keys. -/
theorem listsNumbers_writeLosses (nonempty : found ≠ []) :
    ListsNumbers
      (Markup.Directive.write Markup.lossesName (Json.writeObject (lossMembers found))) := by
  have isLine := isDirectiveLine_writeLosses found
  refine ⟨isLine.oneLine, isLine.barless, ?_, ?_, ?_⟩
  · obtain ⟨front, ⟨category, value⟩, rfl⟩ := (List.eq_nil_or_concat' found).resolve_left nonempty
    obtain ⟨before, inObject⟩ := Text.suffix_intercalate [',']
      ((lossMembers front).map Json.writeMember) (Json.writeMember (category.key, .natural value))
    obtain ⟨run, digit, isRun, isDigit, noLetter⟩ := exists_toDigits value
    have members : lossMembers (front ++ [(category, value)]) =
        lossMembers front ++ [(category.key, .natural value)] := by
      simp [lossMembers]
    have noLetters : "\x7d -->".toList.all fun c => !(Text.foldCase c).isLower := by decide
    simp only [List.all_eq_true, Bool.not_eq_true'] at noLetters
    refine ⟨Markup.Directive.commentStart ++ [' '] ++ Markup.Directive.namePart ++
      Markup.lossesName ++ [':'] ++ '\x7b' :: before ++ Json.writeText category.key ++ ':' :: run,
      digit, "\x7d -->".toList, ?_, isDigit, List.forall_mem_cons.mpr ⟨noLetter, noLetters⟩⟩
    rw [Markup.Directive.write, Json.writeObject, members, List.map_append, List.map_singleton,
      ← inObject]
    simp [Json.writeMember, Json.Scalar.write, isRun, Markup.Directive.commentEnd]
  · have solidName : Markup.lossesName.all isSolid := by decide
    have solid := isSolid_of_mem_body (List.all_eq_true.mp solidName)
      (isSolid_of_mem_writeObject (areSolid_lossMembers found))
    refine (isChain_write (fun c member before isDigit => .inr ?_) (Json.getLast?_writeObject _)
      (by decide) (by decide)).left_of_append
    refine ⟨isBlank_of_isSolid (solid c member), ?_⟩
    rintro rfl
    have inLine : Markup.Directive.namePart ++ Markup.lossesName ++
        ':' :: Json.writeObject (lossMembers found) <:+:
          Markup.Directive.write Markup.lossesName (Json.writeObject (lossMembers found)) :=
      ⟨Markup.Directive.commentStart ++ [' '], ' ' :: Markup.Directive.commentEnd, by
        simp [Markup.Directive.write]⟩
    exact (not_mem_writeLosses found).2 (inLine.subset member)
  · intro c isLast
    rw [Markup.Directive.write_eq, List.getLast?_append, List.getLast?_singleton,
      Option.some_or] at isLast
    cases isLast
    decide

end Written

end EnergyReport.Report.Injection
