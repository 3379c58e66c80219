import EnergyReport.Proofs.Report.AnalysisLines
import EnergyReport.Proofs.Text.Splice

namespace EnergyReport.Report

/-! The lines that are put into a report, and what else its text becomes: nothing else.

The label is put in first, and the loss analysis is looked for in what that gives. Both places are
those of the report itself: the line of the label neither has the title of the analysis nor ends
it, and where it ends a title that is the last line, no analysis follows. -/

/-- A line that is put into a text, at the beginning of a line or behind the last one. -/
structure AddedLine (text : Text) where
  /-- How many characters of the text stand above the line. -/
  place : Nat
  line : Text
  within : place ≤ text.length
  starts : place = text.length ∨ (text.take place).getLast? = some '\n'
  oneLine : '\n' ∉ line

namespace AddedLine

variable {text : Text} (added : AddedLine text) {above below : Text}

/-- What is put in for a line. A last line that is not ended is ended before it. -/
def written : Text :=
  (if added.place = text.length ∧ text.getLast? ≠ some '\n' then ['\n'] else []) ++
    added.line ++ ['\n']

/-- What is put in at a place for some lines, which stay in their order. -/
def additions (lines : List (AddedLine text)) (place : Nat) : Text :=
  (lines.filter fun added => added.place = place).flatMap written

theorem additions_singleton (place : Nat) :
    additions [added] place = if place = added.place then added.written else [] := by
  by_cases here : place = added.place
  · simp [additions, here]
  · simp [additions, here, Ne.symm here]

theorem additions_append (first second : List (AddedLine text)) (place : Nat) :
    additions (first ++ second) place = additions first place ++ additions second place := by
  rw [additions, List.filter_append, List.flatMap_append]
  rfl

theorem written_of_ended (ended : (text.take added.place).getLast? = some '\n') :
    added.written = added.line ++ ['\n'] := by
  have notOpen : ¬ (added.place = text.length ∧ text.getLast? ≠ some '\n') := by
    rintro ⟨atEnd, unended⟩
    rw [atEnd, List.take_length] at ended
    exact unended ended
  rw [written, if_neg notOpen, List.nil_append]

theorem ended_or_unended : (text.take added.place).getLast? = some '\n' ∨
    added.place = text.length ∧ text.getLast? ≠ some '\n' := by
  rcases added.starts with atEnd | ended
  · rw [atEnd, List.take_length]
    by_cases ended : text.getLast? = some '\n'
    · exact .inl ended
    · exact .inr ⟨rfl, ended⟩
  · exact .inl ended

/-- A line between two parts of a text. -/
def between (line : Text) (split : text = above ++ below)
    (ends : below = [] ∨ above.getLast? = some '\n') (oneLine : '\n' ∉ line) :
    AddedLine text where
  place := above.length
  line := line
  within := by
    rw [split, List.length_append]
    exact Nat.le_add_right _ _
  starts := by
    rw [split, List.take_left]
    exact ends.imp_left fun nothing => by rw [nothing, List.append_nil]
  oneLine := oneLine

theorem insertLine_eq (split : text = above ++ below) (here : added.place = above.length) :
    Injection.insertLine above added.line below = above ++ added.written ++ below := by
  subst split
  cases below with
  | nil => simp [Injection.insertLine, written, here]
  | cons c below => simp [Injection.insertLine, written, here]

theorem spliced_nil (text : Text) :
    Text.spliced (additions ([] : List (AddedLine text))) text = text :=
  Text.spliced_of_nowhere (fun _ => rfl) text

theorem spliced_singleton (split : text = above ++ below) (here : added.place = above.length) :
    Text.spliced (additions [added]) text = above ++ added.written ++ below := by
  have one (place : Nat) : additions [added] place =
      if place = above.length then added.written else [] := by
    rw [additions_singleton, here]
  have whole := Text.spliced_append one below
  rwa [← split] at whole

theorem place_eq : added.place = (text.take added.place).length := by
  rw [List.length_take, Nat.min_eq_left added.within]

theorem spliced_self : Text.spliced (additions [added]) text =
    text.take added.place ++ added.written ++ text.drop added.place :=
  added.spliced_singleton (List.take_append_drop added.place text).symm added.place_eq

section Pair

variable {first second : AddedLine text}

theorem additions_pair (place : Nat) : additions [first, second] place =
    (if place = first.place then first.written else []) ++
      if place = second.place then second.written else [] := by
  rw [← additions_singleton, ← additions_singleton, ← additions_append]
  rfl

theorem additions_swap (apart : first.place ≠ second.place) :
    additions [first, second] = additions [second, first] := by
  funext place
  rw [additions_pair, additions_pair]
  by_cases here : place = first.place
  · simp [here, apart]
  · simp [here]

theorem spliced_pair {between : Text} (split : text = above ++ (between ++ below))
    (atFirst : first.place = above.length)
    (atSecond : second.place = above.length + between.length) :
    Text.spliced (additions [first, second]) text =
      above ++ first.written ++ (between ++ second.written ++ below) := by
  have two (place : Nat) : additions [first, second] place =
      (if place = above.length then first.written else []) ++
        if place = above.length + between.length then second.written else [] := by
    rw [additions_pair, atFirst, atSecond]
  have whole := Text.spliced_append_append two below
  rwa [← split] at whole

end Pair

end AddedLine

/-! ### Places -/

/-- Whether a heading stands at a place of a text, and nowhere before it. -/
def FirstAt (heading text : Text) (start : Nat) : Prop :=
  heading <+: text.drop start ∧ ∀ earlier < start, ¬ heading <+: text.drop earlier

/-- Whether the line in which `start` lies ends at a place, with a newline or with the text. -/
def EndsLine (text : Text) (start place : Nat) : Prop :=
  ∃ line lineEnd, (text.take place).drop start = line ++ lineEnd ∧ '\n' ∉ line ∧
    (lineEnd = ['\n'] ∨ lineEnd = [] ∧ place = text.length)

theorem firstAt_of_cut {heading text before after : Text}
    (cut : Text.cut? heading text = some (before, after)) :
    FirstAt heading text before.length := by
  obtain ⟨rfl, first⟩ := Text.cut?_eq_some_iff.mp cut
  refine ⟨?_, first⟩
  rw [List.append_assoc, List.drop_left]
  exact List.prefix_append heading after

/-- Whether a line stands behind the first title of the analysis. -/
def AddedLine.FollowsTitle {text : Text} (added : AddedLine text) : Prop :=
  ∃ start, FirstAt Injection.lossHeading text start ∧
    added.place = start + Injection.lossHeading.length

/-- Whether a line stands below the line with the first heading of the score. -/
def AddedLine.FollowsScore {text : Text} (added : AddedLine text) : Prop :=
  ∃ start, FirstAt Injection.scoreHeading text start ∧ EndsLine text start added.place

namespace Injection

/-- The place below a heading that is part of one line. -/
theorem below_of_cutAfterLine {heading text before after : Text} (inLine : '\n' ∉ heading)
    (found : cutAfterLine? heading text = some (before, after)) :
    text = before ++ after ∧ (after = [] ∨ before.getLast? = some '\n') ∧
      ∃ start, FirstAt heading text start ∧ EndsLine text start before.length := by
  obtain ⟨⟨above, behind⟩, cut, isParts⟩ := Option.map_eq_some_iff.mp found
  obtain ⟨lineRest, ended, taken, dropped, rfl, oneLine, ends⟩ := Text.exists_line behind
  have whole := Text.eq_append_of_cut cut
  simp only [taken, dropped] at isParts
  have ofLine : '\n' ∉ heading ++ lineRest := by simp [inLine, oneLine]
  have isLine (lineEnd rest : Text) (split : ended = lineEnd ++ rest) :
      (text.take (above ++ heading ++ lineRest ++ lineEnd).length).drop above.length =
        (heading ++ lineRest) ++ lineEnd := by
    have parts : text = (above ++ heading ++ lineRest ++ lineEnd) ++ rest := by
      simp [whole, split]
    rw [parts, List.take_left]
    simp
  rcases ends with rfl | ⟨rest, rfl⟩
  · cases isParts
    refine ⟨by simp [whole], .inl rfl, _, firstAt_of_cut cut, _, [], ?_, ofLine, .inr ⟨rfl, ?_⟩⟩
    · simpa using isLine [] [] rfl
    · simp [whole]
  · cases isParts
    refine ⟨by simp [whole], .inr (by simp), _, firstAt_of_cut cut, _, ['\n'], ?_, ofLine, .inl rfl⟩
    exact isLine ['\n'] after rfl

/-- The line of the energy label is put below the heading of the score, if there is one. -/
theorem exists_label (text : Text) :
    ∃ label : Option (AddedLine text),
      label.map AddedLine.line =
        (if scoreHeading <:+: text then energyDirective? text else none) ∧
      (∀ added ∈ label, added.FollowsScore) ∧
      addEnergyLabel text = Text.spliced (AddedLine.additions label.toList) text := by
  have unchanged := (AddedLine.spliced_nil text).symm
  rw [addEnergyLabel_eq]
  cases directive : energyDirective? text with
  | none => exact ⟨none, by simp, by simp, unchanged⟩
  | some line =>
      cases found : cutAfterLine? scoreHeading text with
      | none =>
          have missing : ¬ scoreHeading <:+: text := by
            rw [← Text.cut?_eq_none_iff]
            exact Option.map_eq_none_iff.mp found
          refine ⟨none, by simp [missing], by simp, ?_⟩
          simp only [addLabel, found]
          exact unchanged
      | some parts =>
          obtain ⟨before, after⟩ := parts
          obtain ⟨split, ends, start, isFirst, endsLine⟩ :=
            below_of_cutAfterLine (by decide) found
          obtain ⟨_, _, isLine⟩ := isDirectiveLine_of_energyDirective directive
          have stands : scoreHeading <:+: text :=
            isFirst.1.isInfix.trans (List.drop_suffix start text).isInfix
          let label := AddedLine.between line split ends isLine.oneLine
          have follows : label.FollowsScore := ⟨start, isFirst, endsLine⟩
          refine ⟨some label, ?_, by simpa using follows, ?_⟩
          · rw [if_pos stands]
            rfl
          simp only [addLabel, found]
          exact (label.insertLine_eq split rfl).trans (label.spliced_singleton split rfl).symm

/-! ### The title of the analysis -/

theorem lossHeading_infix_concat_iff {front : Text} :
    lossHeading <:+: front ++ ['\n'] ↔ lossHeading <:+: front ∨ lossTitle <:+ front := by
  have atEnd : lossHeading <:+ front ++ ['\n'] ↔ lossTitle <:+ front := by
    rw [lossHeading_eq]
    constructor
    · intro ⟨before, whole⟩
      rw [← List.append_assoc] at whole
      exact ⟨before, List.append_cancel_right whole⟩
    · intro ⟨before, whole⟩
      exact ⟨before, by rw [← whole, List.append_assoc]⟩
  rw [List.infix_concat_iff, atEnd, or_comm]

/-- Behind an ended line the title is found where it is found without that line, as it does not go
over the end of a line. -/
theorem cut?_lossHeading_append {front : Text} (ended : front.getLast? = some '\n')
    (absent : ¬ lossHeading <:+: front) (rest : Text) :
    Text.cut? lossHeading (front ++ rest) =
      (Text.cut? lossHeading rest).map fun parts => (front ++ parts.1, parts.2) := by
  obtain ⟨line, rfl⟩ := List.getLast?_eq_some_iff.mp ended
  refine Text.cut?_append_left fun start within stands => absent ?_
  rw [List.length_append, List.length_singleton] at within
  rw [List.append_assoc, List.drop_append_of_le_length (by omega)] at stands
  have titled : lossTitle <+: line.drop start := by
    have inLine : '\n' ∉ lossTitle := by decide
    rw [← Text.prefix_append_cons_iff inLine _ rest]
    exact (lossHeading_eq ▸ List.prefix_append _ _).trans stands
  obtain ⟨more, isRest⟩ := titled
  have ofTitle : lossHeading <+: line.drop start ++ ['\n'] := by
    rw [← isRest, List.append_assoc, lossHeading_eq, List.prefix_append_right_inj] at stands ⊢
    cases more with
    | nil => exact List.prefix_rfl
    | cons c more => simpa using stands
  rw [← List.drop_append_of_le_length (by omega)] at ofTitle
  exact ofTitle.isInfix.trans (List.drop_suffix start _).isInfix

section Labelled

variable {text : Text} {label : AddedLine text}

/-- The line of the label with its end does not have the title. -/
theorem lossHeading_not_infix_label (isLabel : energyDirective? text = some label.line) :
    ¬ lossHeading <:+: label.line ++ ['\n'] := by
  rw [lossHeading_infix_concat_iff, not_or]
  refine ⟨fun stands => label.oneLine (stands.subset (by decide)), ?_⟩
  exact untitled_of_energyDirective isLabel

theorem lossDirective?_label (isLabel : energyDirective? text = some label.line) :
    lossDirective? (analysisOf (label.line ++ ['\n'])) = none := by
  obtain ⟨_, _, isLine⟩ := isDirectiveLine_of_energyDirective isLabel
  have absent {c : Char} (notEnd : c ≠ '\n') (notInLine : c ∉ label.line) :
      c ∉ analysisOf (label.line ++ ['\n']) := by
    intro member
    have inLine := mem_of_mem_analysisOf member
    simp [notEnd, notInLine] at inLine
  rw [lossDirective?_eq_none_iff, percentages_eq_nil (absent (by decide) isLine.barless)
    (absent (by decide) (line_of_energyDirective isLabel).2)]
  decide

theorem lossHeading_not_infix_append_label (isLabel : energyDirective? text = some label.line)
    {front : Text} (ended : front.getLast? = some '\n') (absent : ¬ lossHeading <:+: front) :
    ¬ lossHeading <:+: front ++ (label.line ++ ['\n']) := by
  have notInLabel := Text.cut?_eq_none_iff.mpr (lossHeading_not_infix_label isLabel)
  rw [← Text.cut?_eq_none_iff, cut?_lossHeading_append ended absent, notInLabel]
  rfl

/-- A title that is ended by a newline behind it is the last line. -/
theorem cut?_concat_of_titled {front : Text} (absent : ¬ lossHeading <:+: front)
    (titled : lossTitle <:+ front) :
    ∃ before, Text.cut? lossHeading (front ++ ['\n']) = some (before, []) := by
  have stands : lossHeading <:+: front ++ ['\n'] :=
    lossHeading_infix_concat_iff.mpr (.inr titled)
  obtain ⟨⟨before, after⟩, cut⟩ := Option.ne_none_iff_exists'.mp
    (mt Text.cut?_eq_none_iff.mp (not_not_intro stands))
  have whole := Text.eq_append_of_cut cut
  rcases List.eq_nil_or_concat after with rfl | ⟨inner, last, rfl⟩
  · exact ⟨before, cut⟩
  · rw [List.concat_eq_append, ← List.append_assoc] at whole
    obtain ⟨isFront, _⟩ := List.append_inj' whole rfl
    exact absurd ⟨before, inner, isFront.symm⟩ absent

/-- Where the title is not above the label, it is looked for below it. -/
theorem cut?_labelled_of_ended (isLabel : energyDirective? text = some label.line)
    (ended : (text.take label.place).getLast? = some '\n')
    (absent : ¬ lossHeading <:+: text.take label.place) :
    let above := text.take label.place
    let below := text.drop label.place
    Text.cut? lossHeading (above ++ label.written ++ below) =
        (Text.cut? lossHeading below).map
          (fun parts => (above ++ label.written ++ parts.1, parts.2)) ∧
      Text.cut? lossHeading text =
        (Text.cut? lossHeading below).map fun parts => (above ++ parts.1, parts.2) := by
  intro above below
  have nowhere := lossHeading_not_infix_append_label isLabel ended absent
  have stillEnded : (above ++ (label.line ++ ['\n'])).getLast? = some '\n' := by simp
  have inText := cut?_lossHeading_append ended absent below
  rw [List.take_append_drop] at inText
  rw [label.written_of_ended ended, cut?_lossHeading_append stillEnded nowhere below]
  exact ⟨rfl, inText⟩

/-- Behind a last line that is not ended, there is nothing but the label for an analysis. -/
theorem cut?_labelled_of_unended (isLabel : energyDirective? text = some label.line)
    (unended : label.place = text.length ∧ text.getLast? ≠ some '\n')
    (absent : ¬ lossHeading <:+: text) :
    Text.cut? lossHeading (text ++ label.written) = none ∨
      ∃ before, Text.cut? lossHeading (text ++ label.written) =
        some (before, label.line ++ ['\n']) := by
  have split : text ++ label.written = text ++ ['\n'] ++ (label.line ++ ['\n']) := by
    rw [AddedLine.written, if_pos unended]
    simp
  rw [split]
  by_cases titled : lossTitle <:+ text
  · obtain ⟨before, cut⟩ := cut?_concat_of_titled absent titled
    have whole := Text.eq_append_of_cut cut
    have labelled := Text.cut?_append cut (label.line ++ ['\n'])
    rw [List.append_nil] at whole
    rw [← whole] at labelled
    exact .inr ⟨before, labelled⟩
  · have stillAbsent : ¬ lossHeading <:+: text ++ ['\n'] := by
      rw [lossHeading_infix_concat_iff, not_or]
      exact ⟨absent, titled⟩
    have nowhere := lossHeading_not_infix_append_label isLabel (by simp) stillAbsent
    exact .inl (Text.cut?_eq_none_iff.mpr nowhere)

end Labelled

/-! ### The line of the loss chart -/

section Losses

variable {text before rest line : Text} {label : AddedLine text}

theorem injectCharts_of_cut
    (cut : Text.cut? lossHeading (addEnergyLabel text) = some (before, rest))
    (directive : lossDirective? (analysisOf rest) = some line) :
    injectCharts text = before ++ lossHeading ++ (line ++ ['\n']) ++ rest := by
  rw [injectCharts, addLossChart, cut]
  simp only [directive]
  simp [lossHeading_eq, insertLine]

theorem exists_losses (cut : Text.cut? lossHeading text = some (before, rest))
    (oneLine : '\n' ∉ line) :
    ∃ losses : AddedLine text, losses.line = line ∧ losses.FollowsTitle ∧
      losses.place = (before ++ lossHeading).length ∧ losses.written = line ++ ['\n'] := by
  have split := Text.eq_append_of_cut cut
  have ended : (before ++ lossHeading).getLast? = some '\n' := by simp [lossHeading_eq]
  let losses := AddedLine.between line split (.inr ended) oneLine
  have atEnd : (text.take (before ++ lossHeading).length).getLast? = some '\n' := by
    rw [split, List.take_left, ended]
  have isWritten : losses.written = line ++ ['\n'] := losses.written_of_ended atEnd
  exact ⟨losses, rfl, ⟨before.length, firstAt_of_cut cut, List.length_append⟩, rfl, isWritten⟩

theorem exists_losses_of_unlabelled (unlabelled : addEnergyLabel text = text)
    (found : lossLine? text = some line) :
    ∃ losses : AddedLine text, losses.line = line ∧ losses.FollowsTitle ∧
      injectCharts text = Text.spliced (AddedLine.additions [losses]) text := by
  obtain ⟨⟨before, rest⟩, cut, directive⟩ := Option.bind_eq_some_iff.mp found
  have result := injectCharts_of_cut cut directive
  obtain ⟨_, isLine⟩ := isDirectiveLine_of_lossDirective directive
  rw [unlabelled] at cut
  obtain ⟨losses, sameLine, follows, here, isWritten⟩ := exists_losses cut isLine.oneLine
  refine ⟨losses, sameLine, follows, ?_⟩
  rw [result, losses.spliced_singleton (Text.eq_append_of_cut cut) here, isWritten]

theorem exists_losses_above
    (cut : Text.cut? lossHeading (text.take label.place) = some (before, rest))
    (oneLine : '\n' ∉ line) :
    ∃ losses : AddedLine text, losses.line = line ∧ losses.FollowsTitle ∧
      Text.spliced (AddedLine.additions [losses, label]) text =
        before ++ lossHeading ++ (line ++ ['\n']) ++
          (rest ++ label.written ++ text.drop label.place) := by
  have above := Text.eq_append_of_cut cut
  have split : text = before ++ lossHeading ++ (rest ++ text.drop label.place) := by
    rw [← List.append_assoc, ← above, List.take_append_drop]
  have inText := Text.cut?_append cut (rest ++ text.drop label.place)
  rw [← split] at inText
  have isPlace : label.place = (before ++ lossHeading).length + rest.length := by
    rw [← List.length_append, ← above, ← label.place_eq]
  obtain ⟨losses, sameLine, follows, here, isWritten⟩ := exists_losses inText oneLine
  refine ⟨losses, sameLine, follows, ?_⟩
  rw [AddedLine.spliced_pair split here isPlace, isWritten]

theorem exists_losses_below
    (inBelow : Text.cut? lossHeading (text.drop label.place) = some (before, rest))
    (inText : Text.cut? lossHeading text = some (text.take label.place ++ before, rest))
    (oneLine : '\n' ∉ line) :
    ∃ losses : AddedLine text, losses.line = line ∧ losses.FollowsTitle ∧
      Text.spliced (AddedLine.additions [losses, label]) text =
        text.take label.place ++ label.written ++ before ++ lossHeading ++ (line ++ ['\n']) ++
          rest := by
  obtain ⟨losses, sameLine, follows, here, isWritten⟩ := exists_losses inText oneLine
  refine ⟨losses, sameLine, follows, ?_⟩
  have split : text = text.take label.place ++ (before ++ lossHeading ++ rest) := by
    rw [← Text.eq_append_of_cut inBelow, List.take_append_drop]
  have isPlace : losses.place =
      (text.take label.place).length + (before ++ lossHeading).length := by
    rw [here, List.append_assoc, List.length_append]
  have nonempty : lossHeading.length ≠ 0 := by decide
  have apart : losses.place ≠ label.place := by
    rw [isPlace, ← label.place_eq, List.length_append]
    omega
  rw [AddedLine.additions_swap apart, AddedLine.spliced_pair split label.place_eq isPlace,
    isWritten]
  simp

theorem exists_losses_of_labelled (isLabel : energyDirective? text = some label.line)
    (labelled : addEnergyLabel text = Text.spliced (AddedLine.additions [label]) text)
    (found : lossLine? text = some line) :
    ∃ losses : AddedLine text, losses.line = line ∧ losses.FollowsTitle ∧
      injectCharts text = Text.spliced (AddedLine.additions [losses, label]) text := by
  obtain ⟨⟨before, rest⟩, cut, directive⟩ := Option.bind_eq_some_iff.mp found
  rw [injectCharts_of_cut cut directive]
  obtain ⟨_, isLine⟩ := isDirectiveLine_of_lossDirective directive
  rw [labelled, label.spliced_self] at cut
  cases inAbove : Text.cut? lossHeading (text.take label.place) with
  | some parts =>
      obtain ⟨front, behind⟩ := parts
      have inLabelled := Text.cut?_append inAbove (behind ++ label.written ++ text.drop label.place)
      rw [← List.append_assoc, ← List.append_assoc, ← Text.eq_append_of_cut inAbove] at inLabelled
      cases cut.symm.trans inLabelled
      obtain ⟨losses, sameLine, follows, result⟩ := exists_losses_above inAbove isLine.oneLine
      exact ⟨losses, sameLine, follows, result.symm⟩
  | none =>
      have absent := Text.cut?_eq_none_iff.mp inAbove
      rcases label.ended_or_unended with ended | unended
      · obtain ⟨inLabelled, inText⟩ := cut?_labelled_of_ended isLabel ended absent
        obtain ⟨⟨front, behind⟩, inBelow, same⟩ :=
          Option.map_eq_some_iff.mp (inLabelled.symm.trans cut)
        cases same
        rw [inBelow] at inText
        obtain ⟨losses, sameLine, follows, result⟩ :=
          exists_losses_below inBelow inText isLine.oneLine
        exact ⟨losses, sameLine, follows, result.symm⟩
      · rw [unended.1, List.take_length] at absent
        rw [unended.1, List.take_length, List.drop_length, List.append_nil] at cut
        rcases cut?_labelled_of_unended isLabel unended absent with nowhere | ⟨_, nothing⟩
        · rw [nowhere] at cut
          contradiction
        · cases cut.symm.trans nothing
          rw [lossDirective?_label isLabel] at directive
          contradiction

end Losses

/-- The line of the loss chart is put behind the title of the analysis in the report itself, if
there is one. -/
theorem exists_losses_with {text : Text} (label : Option (AddedLine text))
    (isLabel : ∀ added ∈ label, energyDirective? text = some added.line)
    (labelled : addEnergyLabel text = Text.spliced (AddedLine.additions label.toList) text) :
    ∃ losses : Option (AddedLine text), losses.map AddedLine.line = lossLine? text ∧
      (∀ added ∈ losses, added.FollowsTitle) ∧
      injectCharts text =
        Text.spliced (AddedLine.additions (losses.toList ++ label.toList)) text := by
  cases found : lossLine? text with
  | none =>
      have result := injectCharts_of_lossLine text
      rw [found] at result
      exact ⟨none, rfl, by simp, result.trans labelled⟩
  | some line =>
      cases label with
      | none =>
          obtain ⟨losses, sameLine, follows, result⟩ :=
            exists_losses_of_unlabelled (labelled.trans (AddedLine.spliced_nil text)) found
          exact ⟨some losses, congrArg some sameLine, by simpa using follows, result⟩
      | some added =>
          obtain ⟨losses, sameLine, follows, result⟩ :=
            exists_losses_of_labelled (isLabel added rfl) labelled found
          exact ⟨some losses, congrArg some sameLine, by simpa using follows, result⟩

end Injection

/-- Two lines at most are put into a report, the loss chart behind the first title of the analysis
and the energy label below the line with the first heading of the score, in this order where the
places are the same. The rest of the report stays as it is. -/
theorem injectCharts_adds_lines (text : Text) :
    ∃ losses label : Option (AddedLine text),
      let whole := Text.splice (AddedLine.additions (losses.toList ++ label.toList)) text
      injectCharts text = whole.map Prod.fst ∧ Text.ownText whole = text ∧
      (losses = none ∧ label = none → injectCharts text = text) ∧
      losses.map AddedLine.line = Injection.lossLine? text ∧
      label.map AddedLine.line =
        (if Injection.scoreHeading <:+: text then Injection.energyDirective? text else none) ∧
      (∀ added ∈ losses, added.FollowsTitle ∧
        ∃ payload, added.line = Markup.Directive.write Markup.lossesName payload) ∧
      ∀ added ∈ label, added.FollowsScore ∧
        ∃ payload, added.line = Markup.Directive.write Markup.energyLabelName payload := by
  obtain ⟨label, isLabel, followsScore, labelled⟩ := Injection.exists_label text
  have directive : ∀ added ∈ label, Injection.energyDirective? text = some added.line := by
    rintro added rfl
    rw [Option.map_some] at isLabel
    split at isLabel
    · exact isLabel.symm
    · contradiction
  obtain ⟨losses, isLosses, followsTitle, result⟩ :=
    Injection.exists_losses_with label directive labelled
  refine ⟨losses, label, result, Text.ownText_splice _ text, ?_, isLosses, isLabel, ?_, ?_⟩
  · rintro ⟨rfl, rfl⟩
    exact result.trans (AddedLine.spliced_nil text)
  · rintro added rfl
    obtain ⟨_, _, found⟩ := Option.bind_eq_some_iff.mp isLosses.symm
    obtain ⟨_, isLine⟩ := Injection.lossDirective?_eq_some_iff.mp found
    exact ⟨followsTitle added rfl, _, isLine.symm⟩
  · intro added member
    obtain ⟨_, _, isLine⟩ := Injection.energyDirective?_eq_some_iff.mp (directive added member)
    exact ⟨followsScore added member, _, isLine.symm⟩

-- both headings in one line: the label is found first, and comes second
example :
    let heading := "# Votre score énergétique # Analyse des déperditions\n".toList
    let rows := "| Classe énergétique actuelle | D |\n| Murs | 30 % |\n| Toiture | 20 % |".toList
    injectCharts (heading ++ rows) =
      heading ++ "<!-- chart-deperditions:\x7b\"murs\":30,\"toiture\":20\x7d -->\n".toList ++
        "<!-- chart-classe:\x7b\"classe\":\"D\"\x7d -->\n".toList ++ rows := by
  decide +kernel

end EnergyReport.Report
