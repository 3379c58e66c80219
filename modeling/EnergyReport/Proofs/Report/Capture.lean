import EnergyReport.Proofs.Report.InjectedTwice

namespace EnergyReport.Report.Injection

/-! Where the digits for a keyword come from.

Nothing keeps two keywords from taking the same digits. They do so where the way from one of them
to its digits leads over the other: a sentence that names both before its percentage, or a row
without a number above another row. -/

/-- The places of a keyword and its digits, each by what is left of the analysis there. -/
structure Capture where
  /-- From the keyword on. -/
  keyword : Text
  /-- From the end of the keyword on. -/
  after : Text
  /-- From the digits on. -/
  value : Text
  digits : Text
  deriving Repr, DecidableEq

def tableCapture? (keyword : List Text) (place : Text) : Option Capture := do
  let after ← afterCompound? keyword place
  let cell ← afterBar? after
  let value := Text.trimStart cell
  let digits ← leadingDigits? value
  return ⟨place, after, value, digits⟩

def proseCapture? (keyword : List Text) (place : Text) : Option Capture := do
  let after ← afterCompound? keyword place
  let gap := (after.take (proseGap + 1)).takeWhile fun c => !Text.isDigit c
  if proseGap < gap.length then none
  let value := after.drop gap.length
  let digits ← leadingDigits? value
  let _ ← Text.strip? ['%'] (Text.trimStart (value.drop digits.length))
  return ⟨place, after, value, digits⟩

/-- Where the digits come from that the analysis gives for a keyword. -/
def capture? (keyword : List Text) (analysis : Text) : Option Capture :=
  (Text.firstMatch (tableCapture? keyword) analysis).or
    (Text.firstMatch (proseCapture? keyword) analysis)

theorem keywordDigits?_eq (keyword : List Text) (analysis : Text) :
    keywordDigits? keyword analysis = (capture? keyword analysis).map (·.digits) := by
  have table : tableDigits? keyword analysis =
      (Text.firstMatch (tableCapture? keyword) analysis).map (·.digits) := by
    rw [← Text.firstMatch_map, tableDigits?]
    congr 1
    funext place
    simp only [tableCapture?, Option.bind_eq_bind, Option.pure_def, Option.map_bind,
      Function.comp_def, Option.map_some, Option.bind_fun_some]
  have prose : proseDigits? keyword analysis =
      (Text.firstMatch (proseCapture? keyword) analysis).map (·.digits) := by
    rw [← Text.firstMatch_map, proseDigits?]
    congr 1
    funext place
    simp only [proseCapture?, Option.bind_eq_bind, Option.map_bind, Function.comp_def]
    congr 1
    funext after
    split
    · rfl
    · simp only [Option.pure_def, Option.map_bind, Function.comp_def, Option.map_some]
  rw [keywordDigits?, table, prose, capture?, Option.map_or]

/-- How digits are reached: behind the next bar, or close by and with a percent sign. -/
inductive Reaches (between value digits : Text) : Prop where
  | cell {gap blanks : Text} (split : between = gap ++ '|' :: blanks) (barless : '|' ∉ gap)
      (blank : ∀ c ∈ blanks, Text.isBlank c)
  | percent {blanks rest : Text} (near : between.length ≤ proseGap)
      (noDigits : ∀ c ∈ between, Text.isDigit c = false)
      (signed : value = digits ++ blanks ++ '%' :: rest) (blank : ∀ c ∈ blanks, Text.isBlank c)

structure IsCapture (keyword : List Text) (analysis : Text) (capture : Capture) : Prop where
  stands : capture.keyword <:+ analysis
  spelled : afterCompound? keyword capture.keyword = some capture.after
  leading : leadingDigits? capture.value = some capture.digits
  reaches : ∃ between, capture.after = between ++ capture.value ∧
    Reaches between capture.value capture.digits

variable {keyword : List Text} {analysis : Text} {capture : Capture}

theorem isCapture_of_table {place : Text} (within : place <:+ analysis)
    (found : tableCapture? keyword place = some capture) : IsCapture keyword analysis capture := by
  simp only [tableCapture?, Option.bind_eq_bind, Option.bind_eq_some_iff] at found
  obtain ⟨after, spelled, cell, bar, digits, leading, same⟩ := found
  cases same
  obtain ⟨gap, barless, rfl⟩ := afterBar?_eq_some_iff.mp bar
  obtain ⟨blanks, blank, parts⟩ := Text.exists_blanks_append_trimStart cell
  have reached : gap ++ '|' :: cell = gap ++ '|' :: blanks ++ Text.trimStart cell := by
    rw [List.append_assoc, List.cons_append, ← parts]
  exact ⟨within, spelled, leading, _, reached, .cell rfl barless blank⟩

theorem isCapture_of_prose {place : Text} (within : place <:+ analysis)
    (found : proseCapture? keyword place = some capture) : IsCapture keyword analysis capture := by
  simp only [proseCapture?, Option.bind_eq_bind, Option.bind_eq_some_iff] at found
  obtain ⟨after, spelled, found⟩ := found
  split at found
  · simp at found
  · next near =>
    simp only [Option.bind_eq_some_iff] at found
    obtain ⟨digits, leading, rest, signed, same⟩ := found
    cases same
    obtain ⟨gap, isGap⟩ : ∃ gap, gap =
        (after.take (proseGap + 1)).takeWhile fun c => !Text.isDigit c := ⟨_, rfl⟩
    rw [← isGap] at near leading signed ⊢
    have noDigits : ∀ c ∈ gap, Text.isDigit c = false := by
      intro c member
      rw [isGap] at member
      simpa using List.mem_takeWhile_imp member
    have atStart : gap <+: after :=
      isGap ▸ (List.takeWhile_prefix _).trans (List.take_prefix _ _)
    obtain ⟨value, rfl⟩ := atStart
    rw [List.drop_left] at leading signed ⊢
    obtain ⟨tail, rfl⟩ := leadingDigits?_initial leading
    obtain ⟨blanks, blank, parts⟩ := Text.exists_blanks_append_trimStart tail
    rw [List.drop_left, Text.strip?_eq_some_iff] at signed
    have isSigned : digits ++ tail = digits ++ blanks ++ '%' :: rest := by
      rw [parts, signed, List.append_assoc]
      rfl
    exact ⟨within, spelled, leading, gap, rfl,
      .percent (Nat.le_of_not_lt near) noDigits isSigned blank⟩

theorem isCapture_of_capture (found : capture? keyword analysis = some capture) :
    IsCapture keyword analysis capture := by
  rcases Option.or_eq_some_iff.mp found with table | ⟨_, prose⟩
  · obtain ⟨before, place, rfl, there⟩ := Text.exists_place_of_firstMatch table
    exact isCapture_of_table (List.suffix_append _ _) there
  · obtain ⟨before, place, rfl, there⟩ := Text.exists_place_of_firstMatch prose
    exact isCapture_of_prose (List.suffix_append _ _) there

/-- A text that no ending of a word begins or goes on with. -/
def Apart (words : List Text) (word : Text) : Prop :=
  ∀ other ∈ words, ∀ ending ∈ other.tails, ending ≠ [] → ¬ ending <+: word ∧ ¬ word <+: ending

instance (words : List Text) (word : Text) : Decidable (Apart words word) :=
  inferInstanceAs (Decidable (∀ other ∈ words, ∀ ending ∈ other.tails, ending ≠ [] →
    ¬ ending <+: word ∧ ¬ word <+: ending))

/-- Keywords begin in ways in which no other goes on. -/
theorem apart_of_mem : ∀ one ∈ lossKeywords, ∀ other ∈ lossKeywords, one ≠ other →
    ∀ word ∈ other.2.head?, Apart one.2 word := by
  decide +kernel

theorem exists_word_of_mem : ∀ entry ∈ lossKeywords, ∃ word more, entry.2 = word :: more ∧
    ∃ letter letters, word = letter :: letters ∧ letter.isLower := by
  simp [lossKeywords]

section Occurrences

variable {words : List Text} {word text part after : Text}

theorem stripWord?_eq_none_of_apart {other : Text} (apart : Apart [other] word)
    (found : Text.stripWord? other text = some after) (within : part <:+ text)
    (inside : after.length < part.length) : Text.stripWord? word part = none := by
  rw [Option.eq_none_iff_forall_ne_some]
  intro rest stands
  obtain ⟨taken, rfl, rfl⟩ := Text.stripWord?_eq_some_iff.mp found
  obtain ⟨spelled, rfl, parts⟩ := Text.stripWord?_eq_some_iff.mp stands
  obtain ⟨ending, rfl⟩ : after <:+ part :=
    List.suffix_of_suffix_length_le (List.suffix_append _ _) within (Nat.le_of_lt inside)
  have isEnding : ending <:+ taken := List.suffix_append_self_iff.mp within
  have nonempty : ending ≠ [] := by
    rintro rfl
    simp at inside
  obtain ⟨notBegins, notGoesOn⟩ := apart _ (List.mem_singleton_self _)
    (ending.map Text.foldCase) ((List.mem_tails _ _).mpr (isEnding.map _)) (by simpa using nonempty)
  have atStart : ending <+: spelled ++ rest := parts ▸ List.prefix_append _ _
  rcases List.prefix_or_prefix_of_prefix atStart (List.prefix_append _ _) with begins | goesOn
  · exact notBegins (begins.map _)
  · exact notGoesOn (goesOn.map _)

variable (small : ∃ letter more, word = letter :: more ∧ letter.isLower)

theorem stripWord?_eq_none_of_isBlank {letter c : Char} (small : letter.isLower)
    (blank : Text.isBlank c) (more rest : Text) :
    Text.stripWord? (letter :: more) (c :: rest) = none := by
  have different : c ≠ letter := by
    rintro rfl
    have range := Text.toNat_of_isLower small
    simp only [Text.isBlank, Bool.or_eq_true, Bool.and_eq_true, decide_eq_true_eq,
      beq_iff_eq] at blank
    omega
  rw [Text.stripWord?, Text.foldCase_of_isBlank blank, if_neg different]

include small

theorem stripWord?_eq_none_of_inBlanks (within : part <:+ text)
    (inBlanks : (Text.trimStart text).length < part.length) : Text.stripWord? word part = none := by
  obtain ⟨letter, letters, rfl, isSmall⟩ := small
  obtain ⟨blanks, blank, parts⟩ := Text.exists_blanks_append_trimStart text
  obtain ⟨ending, rfl⟩ : Text.trimStart text <:+ part :=
    List.suffix_of_suffix_length_le (List.dropWhile_suffix _) within (Nat.le_of_lt inBlanks)
  obtain ⟨c, more, rfl⟩ := List.exists_cons_of_ne_nil (l := ending) (by
    rintro rfl
    simp at inBlanks)
  have whole : c :: more ++ Text.trimStart text <:+ blanks ++ Text.trimStart text := by
    rwa [← parts]
  have inGap : c :: more <:+ blanks := List.suffix_append_self_iff.mp whole
  exact stripWord?_eq_none_of_isBlank isSmall (blank c (inGap.subset List.mem_cons_self)) _ _

theorem stripWord?_eq_none_of_inside (apart : Apart words word)
    (found : afterCompound? words text = some after) (within : part <:+ text)
    (inside : after.length < part.length) : Text.stripWord? word part = none := by
  induction words generalizing text with
  | nil =>
      cases found
      have short := within.length_le
      omega
  | cons other others induction =>
      have apartFirst : Apart [other] word := by
        simpa [Apart] using apart other List.mem_cons_self
      have apartOthers : Apart others word := fun next member =>
        apart next (List.mem_cons_of_mem _ member)
      cases others with
      | nil => exact stripWord?_eq_none_of_apart apartFirst found within inside
      | cons next more =>
          simp only [afterCompound?] at found
          split at found
          · rename_i rest stripped
            -- It would begin in the first part, in the blanks behind it, or in what follows.
            by_cases inFirst : rest.length < part.length
            · exact stripWord?_eq_none_of_apart apartFirst stripped within inFirst
            · have inRest : part <:+ rest := by
                obtain ⟨taken, _, rfl⟩ := Text.stripWord?_eq_some_iff.mp stripped
                exact List.suffix_of_suffix_length_le within (List.suffix_append _ _)
                  (Nat.le_of_not_lt inFirst)
              by_cases inBlanks : (Text.trimStart rest).length < part.length
              · exact stripWord?_eq_none_of_inBlanks small inRest inBlanks
              · have trimmed : part <:+ Text.trimStart rest :=
                  List.suffix_of_suffix_length_le inRest (List.dropWhile_suffix _)
                    (Nat.le_of_not_lt inBlanks)
                exact induction apartOthers found trimmed
          · contradiction

end Occurrences

theorem exists_before_of_afterCompound {words : List Text} {text after : Text}
    (legal : isKeyword words) (found : afterCompound? words text = some after) :
    ∃ c, c :: after <:+ text ∧ Text.isDigit c = false := by
  induction words generalizing text with
  | nil => contradiction
  | cons word others induction =>
      simp only [isKeyword, List.all_cons, Bool.and_eq_true, Bool.not_eq_true',
        List.all_eq_true] at legal
      obtain ⟨_, ⟨nonempty, small⟩, othersLegal⟩ := legal
      cases others with
      | nil =>
          obtain ⟨taken, folded, rfl⟩ := Text.stripWord?_eq_some_iff.mp found
          obtain ⟨before, c, rfl⟩ := (List.eq_nil_or_concat' taken).resolve_left (by
            rintro rfl
            simp [← folded] at nonempty)
          have letter : (Text.foldCase c).isLower :=
            small _ (folded ▸ List.mem_map_of_mem (by simp))
          exact ⟨c, ⟨before, by simp⟩, Text.isDigit_of_isLower letter⟩
      | cons next more =>
          simp only [afterCompound?] at found
          split at found
          · rename_i rest stripped
            obtain ⟨taken, _, rfl⟩ := Text.stripWord?_eq_some_iff.mp stripped
            obtain ⟨c, stands, noDigit⟩ := induction (by simpa [isKeyword] using othersLegal) found
            exact ⟨c, (stands.trans (List.dropWhile_suffix _)).trans (List.suffix_append _ _),
              noDigit⟩
          · contradiction

theorem IsCapture.exists_before (isCapture : IsCapture keyword analysis capture)
    (legal : isKeyword keyword) :
    ∃ c, c :: capture.value <:+ analysis ∧ Text.isDigit c = false := by
  obtain ⟨between, parts, reaches⟩ := isCapture.reaches
  rcases List.eq_nil_or_concat' between with rfl | ⟨front, c, rfl⟩
  · -- The digits follow the keyword at once.
    obtain ⟨c, stands, noDigit⟩ := exists_before_of_afterCompound legal isCapture.spelled
    rw [parts] at stands
    exact ⟨c, stands.trans isCapture.stands, noDigit⟩
  · refine ⟨c, ?_, ?_⟩
    · have inAfter : c :: capture.value <:+ capture.after := ⟨front, by simp [parts]⟩
      exact (inAfter.trans (suffix_of_afterCompound isCapture.spelled)).trans isCapture.stands
    · cases reaches with
      | percent near noDigits signed blank => exact noDigits c (by simp)
      | @cell gap blanks split barless blank =>
          rcases List.eq_nil_or_concat' blanks with rfl | ⟨others, last, rfl⟩
          · obtain ⟨_, same⟩ := List.append_inj' split rfl
            cases same
            decide
          · rw [← List.cons_append, ← List.append_assoc] at split
            obtain ⟨_, same⟩ := List.append_inj' split rfl
            cases same
            exact Text.isDigit_of_isBlank (blank c (by simp))

/-- The way from one keyword to its digits leads over another keyword. -/
def Capture.RunsOver (one other : Capture) : Prop :=
  ∃ left spelled right, one.after = left ++ other.keyword ∧ other.keyword = spelled ++ other.after ∧
    other.after = right ++ one.value ∧
    Reaches (left ++ spelled ++ right) one.value one.digits

/-- Whether a place of the analysis, counted from its beginning, holds one of the digits. -/
def Capture.Covers (capture : Capture) (analysis : Text) (index : Nat) : Prop :=
  analysis.length - capture.value.length ≤ index ∧
    index < analysis.length - capture.value.length + capture.digits.length

instance (capture : Capture) (analysis : Text) (index : Nat) :
    Decidable (capture.Covers analysis index) :=
  inferInstanceAs (Decidable (_ ∧ _))

section Shared

variable {one other : List Text} {first second : Capture}

theorem IsCapture.suffix_value (isCapture : IsCapture keyword analysis capture) :
    capture.value <:+ analysis := by
  obtain ⟨between, parts, _⟩ := isCapture.reaches
  have inAfter : capture.value <:+ capture.after := parts ▸ List.suffix_append _ _
  exact (inAfter.trans (suffix_of_afterCompound isCapture.spelled)).trans isCapture.stands

/-- Digits do not begin inside those of another capture. -/
theorem length_value_le_of_covers (isFirst : IsCapture one analysis first)
    (isSecond : IsCapture other analysis second) (legal : isKeyword one) {index : Nat}
    (inFirst : first.Covers analysis index) (inSecond : second.Covers analysis index) :
    second.value.length ≤ first.value.length := by
  by_contra longer
  obtain ⟨c, stands, noDigit⟩ := isFirst.exists_before legal
  obtain ⟨run, isRun⟩ : first.value <:+ second.value :=
    List.suffix_of_suffix_length_le isFirst.suffix_value isSecond.suffix_value (by omega)
  have inSecondValue : c :: first.value <:+ run ++ first.value := by
    rw [isRun]
    exact List.suffix_of_suffix_length_le stands isSecond.suffix_value (by simp; omega)
  have inRun : [c] <:+ run := List.suffix_append_self_iff.mp inSecondValue
  have digits := (leadingDigits?_eq_some_iff.mp isSecond.leading).1
  -- all that is before the place is digits
  have isShort : run.length ≤ second.digits.length := by
    have whole := isSecond.suffix_value.length_le
    have length := congrArg List.length isRun
    simp only [List.length_append] at length
    obtain ⟨fromFirst, _⟩ := inFirst
    obtain ⟨_, toSecond⟩ := inSecond
    omega
  have atStart : run <+: second.digits :=
    List.prefix_of_prefix_length_le (isRun ▸ List.prefix_append _ _)
      (leadingDigits?_initial isSecond.leading) isShort
  have isDigit : Text.isDigit c :=
    List.mem_takeWhile_imp (digits ▸ atStart.subset (inRun.subset List.mem_cons_self))
  simp [isDigit] at noDigit

theorem value_eq_of_covers (isFirst : IsCapture one analysis first)
    (isSecond : IsCapture other analysis second) (legal : isKeyword one)
    (otherLegal : isKeyword other) {index : Nat} (inFirst : first.Covers analysis index)
    (inSecond : second.Covers analysis index) : first.value = second.value := by
  have atMost := length_value_le_of_covers isFirst isSecond legal inFirst inSecond
  have atLeast := length_value_le_of_covers isSecond isFirst otherLegal inSecond inFirst
  exact (List.suffix_of_suffix_length_le isFirst.suffix_value isSecond.suffix_value
    atLeast).eq_of_length (Nat.le_antisymm atLeast atMost)

theorem runsOver_of_le (isFirst : IsCapture one analysis first)
    (isSecond : IsCapture other analysis second) (same : first.value = second.value)
    (later : second.keyword.length ≤ first.after.length) : first.RunsOver second := by
  have inAnalysis : first.after <:+ analysis :=
    (suffix_of_afterCompound isFirst.spelled).trans isFirst.stands
  obtain ⟨left, isLeft⟩ := List.suffix_of_suffix_length_le isSecond.stands inAnalysis later
  obtain ⟨spelled, isSpelled⟩ := suffix_of_afterCompound isSecond.spelled
  obtain ⟨right, isRight, _⟩ := isSecond.reaches
  obtain ⟨between, parts, reaches⟩ := isFirst.reaches
  have whole : between = left ++ spelled ++ right := by
    rw [← isLeft, ← isSpelled, isRight, ← same] at parts
    simpa only [← List.append_assoc, List.append_cancel_right_eq] using parts.symm
  exact ⟨left, spelled, right, isLeft.symm, isSpelled.symm, same ▸ isRight, whole ▸ reaches⟩

end Shared

section Different

variable {one other : Chart.LossCategory × List Text} {first second : Capture}
  (listed : one ∈ lossKeywords) (otherListed : other ∈ lossKeywords) (different : one ≠ other)
  (isFirst : IsCapture one.2 analysis first) (isSecond : IsCapture other.2 analysis second)

include listed otherListed different isFirst isSecond

/-- A keyword that does not begin before another begins behind it. -/
theorem length_keyword_le (notBefore : second.keyword.length ≤ first.keyword.length) :
    second.keyword.length ≤ first.after.length := by
  by_contra inside
  have within : second.keyword <:+ first.keyword :=
    List.suffix_of_suffix_length_le isSecond.stands isFirst.stands notBefore
  obtain ⟨word, more, isOther, small⟩ := exists_word_of_mem other otherListed
  have apart := apart_of_mem one listed other otherListed different word (by simp [isOther])
  have nowhere := stripWord?_eq_none_of_inside small apart isFirst.spelled within (by omega)
  have spelled := isSecond.spelled
  rw [isOther] at spelled
  cases more with
  | nil => simp [afterCompound?, nowhere] at spelled
  | cons next more => simp [afterCompound?, nowhere] at spelled

theorem runsOver_or_runsOver (same : first.value = second.value) :
    first.RunsOver second ∨ second.RunsOver first := by
  rcases Nat.le_total second.keyword.length first.keyword.length with later | earlier
  · exact .inl (runsOver_of_le isFirst isSecond same
      (length_keyword_le listed otherListed different isFirst isSecond later))
  · exact .inr (runsOver_of_le isSecond isFirst same.symm
      (length_keyword_le otherListed listed different.symm isSecond isFirst earlier))

end Different

/-- Two keywords share a digit of an analysis only where the way from one of them to its digits
leads over the other. They have all digits in common then. -/
theorem runsOver_of_shared (analysis : Text) :
    (percentages analysis = lossKeywords.filterMap fun (category, keyword) =>
      ((capture? keyword analysis).bind fun capture => percentageOf? capture.digits).map
        (category, ·)) ∧
    (∀ entry ∈ lossKeywords, ∀ capture, capture? entry.2 analysis = some capture →
      IsCapture entry.2 analysis capture) ∧
    ∀ one ∈ lossKeywords, ∀ other ∈ lossKeywords, one ≠ other →
      ∀ first second, capture? one.2 analysis = some first →
        capture? other.2 analysis = some second →
        ∀ index, first.Covers analysis index → second.Covers analysis index →
          first.value = second.value ∧ first.digits = second.digits ∧
            (first.RunsOver second ∨ second.RunsOver first) := by
  refine ⟨?_, fun entry _ capture found => isCapture_of_capture found, ?_⟩
  · simp only [percentages, percentage?_eq, keywordDigits?_eq, Option.bind_map, Function.comp_def]
  · intro one listed other otherListed different first second found otherFound index inFirst
      inSecond
    have isFirst := isCapture_of_capture found
    have isSecond := isCapture_of_capture otherFound
    have same := value_eq_of_covers isFirst isSecond (isKeyword_of_mem one listed)
      (isKeyword_of_mem other otherListed) inFirst inSecond
    have sameDigits : first.digits = second.digits :=
      Option.some.inj (isFirst.leading.symm.trans (same ▸ isSecond.leading))
    exact ⟨same, sameDigits,
      runsOver_or_runsOver listed otherListed different isFirst isSecond same⟩

/-- A sentence that names two categories before its percentage. -/
def sharedSentence : Text := "Les murs et la toiture représentent 55 % des pertes.\n".toList

/-- Where both take their digits. -/
def sharedPlaces : Capture × Capture :=
  let value := "55 % des pertes.\n".toList
  (⟨"murs et la toiture représentent ".toList ++ value,
      " et la toiture représentent ".toList ++ value, value, "55".toList⟩,
    ⟨"toiture représentent ".toList ++ value, " représentent ".toList ++ value, value,
      "55".toList⟩)

theorem capture?_sharedSentence :
    capture? ["murs".toList] sharedSentence = some sharedPlaces.1 ∧
      capture? ["toiture".toList] sharedSentence = some sharedPlaces.2 ∧
      sharedPlaces.1.Covers sharedSentence 36 ∧ sharedPlaces.2.Covers sharedSentence 36 := by
  decide +kernel

theorem runsOver_sharedSentence :
    sharedPlaces.1.value = sharedPlaces.2.value ∧
      (sharedPlaces.1.RunsOver sharedPlaces.2 ∨ sharedPlaces.2.RunsOver sharedPlaces.1) := by
  obtain ⟨found, otherFound, inFirst, inSecond⟩ := capture?_sharedSentence
  obtain ⟨same, _, overOther⟩ := (runsOver_of_shared sharedSentence).2.2 (.walls, ["murs".toList])
    (by decide) (.roof, ["toiture".toList]) (by decide) (by decide) _ _ found otherFound 36
    inFirst inSecond
  exact ⟨same, overOther⟩

/-- The loss chart is added below a sentence whose digits count for two categories. -/
theorem not_captures_apart :
    ¬ ∀ text before rest line : Text,
      Text.cut? lossHeading (addEnergyLabel text) = some (before, rest) →
      lossDirective? (analysisOf rest) = some line →
      ∀ one ∈ lossKeywords, ∀ other ∈ lossKeywords, one ≠ other →
        ∀ first second, capture? one.2 (analysisOf rest) = some first →
          capture? other.2 (analysisOf rest) = some second →
          ∀ index, ¬ (first.Covers (analysisOf rest) index ∧
            second.Covers (analysisOf rest) index) := by
  intro apart
  have cut : Text.cut? lossHeading (addEnergyLabel (lossHeading ++ sharedSentence)) =
      some ([], sharedSentence) := by
    decide
  have whole : analysisOf sharedSentence = sharedSentence := by decide
  have injected : lossDirective? sharedSentence =
      some "<!-- chart-deperditions:\x7b\"murs\":55,\"toiture\":55\x7d -->".toList := by
    decide +kernel
  obtain ⟨found, otherFound, inFirst, inSecond⟩ := capture?_sharedSentence
  rw [← whole] at injected found otherFound inFirst inSecond
  exact apart _ _ _ _ cut injected (.walls, ["murs".toList]) (by decide)
    (.roof, ["toiture".toList]) (by decide) (by decide) _ _ found otherFound 36
    ⟨inFirst, inSecond⟩

end EnergyReport.Report.Injection
