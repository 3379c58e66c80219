import EnergyReport.Proofs.Markup.State
import EnergyReport.Proofs.Report.InjectedTwice

namespace EnergyReport.Report.Injection

/-! The lines from which the loss chart is made.

They begin below the title of the analysis and end before a line that begins with a number sign
and a space. The first of them never ends them: where the next section follows the title at once,
its lines are taken for those of the analysis. -/

/-- A line before which the analysis ends, unless it is the first one. -/
def EndsAnalysis (line : Text) : Prop :=
  "# ".toList <+: line

instance (line : Text) : Decidable (EndsAnalysis line) :=
  inferInstanceAs (Decidable ("# ".toList <+: line))

/-- The analysis among the lines below its title. -/
def analysisLines : List Text → List Text
  | [] => []
  | first :: others => first :: others.takeWhile fun line => ¬ EndsAnalysis line

/-- The analysis among the lines of a report: below the first line that ends with the title, if
that is not the last line. -/
def analysisLines? : List Text → Option (List Text)
  | line :: next :: rest =>
      if lossTitle <:+ line then some (analysisLines (next :: rest))
      else analysisLines? (next :: rest)
  | _ => none

theorem exists_lines (text : Text) : ∃ first others, Text.lines text = first :: others :=
  List.exists_cons_of_ne_nil (Text.splitOn_ne_nil '\n' text)

theorem prefix_iff_of_lines {needle text first : Text} {others : List Text}
    (absent : '\n' ∉ needle) (isLines : Text.lines text = first :: others) :
    needle <+: text ↔ needle <+: first := by
  induction text using Text.lineInduction with
  | last line oneLine =>
      rw [Text.lines_of_not_mem oneLine] at isLines
      cases isLines
      rfl
  | line line rest oneLine _ =>
      rw [Text.lines_cons oneLine] at isLines
      cases isLines
      exact Text.prefix_append_cons_iff absent _ _

theorem lines_analysisOf (rest : Text) :
    Text.lines (analysisOf rest) = analysisLines (Text.lines rest) := by
  induction rest using Text.lineInduction with
  | last line oneLine =>
      have endless : Text.cut? nextSection line = none := by
        rw [Text.cut?_eq_none_iff]
        exact fun stands => oneLine (stands.subset (by decide))
      simp only [analysisOf, endless, Text.lines_of_not_mem oneLine]
      rfl
  | line line rest oneLine induction =>
      obtain ⟨first, others, isLines⟩ := exists_lines rest
      rw [analysisOf_append_line oneLine, Text.lines_cons oneLine]
      by_cases ended : "# ".toList <+: rest
      · have firstEnds : EndsAnalysis first := (prefix_iff_of_lines (by decide) isLines).mp ended
        rw [if_pos ended, Text.lines_of_not_mem oneLine]
        simp [analysisLines, isLines, firstEnds]
      · have firstGoesOn : ¬ EndsAnalysis first :=
          mt (prefix_iff_of_lines (by decide) isLines).mpr ended
        rw [if_neg ended, Text.lines_cons oneLine, induction]
        simp [analysisLines, isLines, firstGoesOn]

theorem lossHeading_prefix_iff {part : Text} (oneLine : '\n' ∉ part) (rest : Text) :
    lossHeading <+: part ++ '\n' :: rest ↔ part = lossTitle := by
  constructor
  · intro stands
    rw [lossHeading_eq] at stands
    have inLine : lossTitle <+: part :=
      (Text.prefix_append_cons_iff (by decide) part rest).mp
        ((List.prefix_append _ _).trans stands)
    obtain ⟨more, rfl⟩ := inLine
    rw [List.append_assoc, List.prefix_append_right_inj] at stands
    cases more with
    | nil => simp
    | cons c more =>
        simp only [List.cons_append, List.cons_prefix_cons] at stands
        simp [← stands.1] at oneLine
  · rintro rfl
    exact ⟨rest, by simp [lossHeading_eq]⟩

theorem lines_analysis (text : Text) :
    ((Text.cut? lossHeading text).map fun parts => Text.lines (analysisOf parts.2)) =
      analysisLines? (Text.lines text) := by
  induction text using Text.lineInduction with
  | last line oneLine =>
      have missing : Text.cut? lossHeading line = none := by
        rw [Text.cut?_eq_none_iff]
        exact fun stands => oneLine (stands.subset (by decide))
      rw [missing, Text.lines_of_not_mem oneLine]
      rfl
  | line line rest oneLine induction =>
      obtain ⟨first, others, isLines⟩ := exists_lines rest
      have places : ∀ start ≤ line.length,
          lossHeading <+: (line ++ '\n' :: rest).drop start ↔ line.drop start = lossTitle := by
        intro start within
        rw [List.drop_append_of_le_length within]
        exact lossHeading_prefix_iff (fun member => oneLine (List.mem_of_mem_drop member)) rest
      rw [Text.lines_cons oneLine, isLines, analysisLines?, ← isLines]
      split
      · rename_i titled
        obtain ⟨front, rfl⟩ := titled
        have cut : Text.cut? lossHeading (front ++ lossTitle ++ '\n' :: rest) =
            some (front, rest) := by
          refine Text.cut?_eq_some_iff.mpr
            ⟨by simp [lossHeading_eq], fun start earlier stands => ?_⟩
          rw [places start (by simp; omega), List.drop_append_of_le_length (by omega)] at stands
          have length := congrArg List.length stands
          simp only [List.length_append, List.length_drop] at length
          omega
        rw [cut, Option.map_some, lines_analysisOf]
      · rename_i untitled
        have nowhere : ∀ start ≤ line.length,
            ¬ lossHeading <+: (line ++ '\n' :: rest).drop start := by
          intro start within
          rw [places start within]
          exact fun isTitle => untitled (isTitle ▸ List.drop_suffix start line)
        rw [Text.cut?_append_cons nowhere, ← induction, Option.map_map]
        rfl

/-- The line of the loss chart that is put into a report. -/
def lossLine? (text : Text) : Option Text :=
  (Text.cut? lossHeading (addEnergyLabel text)).bind fun parts =>
    lossDirective? (analysisOf parts.2)

theorem lossLine?_eq (text : Text) :
    lossLine? text =
      (analysisLines? (Text.lines (addEnergyLabel text))).bind fun lines =>
        lossDirective? (Text.joinLines lines) := by
  rw [lossLine?, ← lines_analysis, Option.bind_map]
  simp only [Function.comp_def, Text.joinLines_lines]

theorem injectCharts_of_lossLine (text : Text) :
    match lossLine? text with
    | none => injectCharts text = addEnergyLabel text
    | some line => ∃ before rest, addEnergyLabel text = before ++ lossHeading ++ rest ∧
        injectCharts text = before ++ lossHeading ++ line ++ '\n' :: rest := by
  rw [lossLine?, injectCharts, addLossChart]
  cases cut : Text.cut? lossHeading (addEnergyLabel text) with
  | none => simp
  | some parts =>
      obtain ⟨before, rest⟩ := parts
      cases found : lossDirective? (analysisOf rest) with
      | none => simp [found]
      | some line =>
          simp only [Option.bind_some, found]
          refine ⟨before, rest, Text.eq_append_of_cut cut, ?_⟩
          simp [lossHeading_eq, insertLine]

/-- The lines of a report with the line of the energy label below the first that holds the
heading of the score. -/
def labelLines (directive : Text) : List Text → List Text
  | [] => []
  | line :: rest =>
      if scoreHeading <:+: line then line :: directive :: (if rest.isEmpty then [[]] else rest)
      else line :: labelLines directive rest

/-- A text with the line of the energy label. -/
def addLabel (directive text : Text) : Text :=
  match cutAfterLine? scoreHeading text with
  | some (before, after) => insertLine before directive after
  | none => text

theorem addEnergyLabel_eq (text : Text) :
    addEnergyLabel text =
      match energyDirective? text with
      | some directive => addLabel directive text
      | none => text := by
  unfold addEnergyLabel addLabel
  cases energyDirective? text <;> cases cutAfterLine? scoreHeading text <;> rfl

section Label

variable {directive line : Text}

theorem cutAfterLine?_of_titled (oneLine : '\n' ∉ line) (stands : scoreHeading <:+: line) :
    cutAfterLine? scoreHeading line = some (line, []) ∧
      ∀ rest, cutAfterLine? scoreHeading (line ++ '\n' :: rest) = some (line ++ ['\n'], rest) := by
  obtain ⟨⟨before, after⟩, cut⟩ := Option.ne_none_iff_exists'.mp
    (mt Text.cut?_eq_none_iff.mp (not_not_intro stands))
  obtain rfl := Text.eq_append_of_cut cut
  have solid : ∀ c ∈ after, decide (c ≠ '\n') = true := by
    intro c member
    rw [decide_eq_true_eq]
    rintro rfl
    exact oneLine (by simp [member])
  constructor
  · have toEnd : after.takeWhile (· ≠ '\n') = after := List.takeWhile_eq_self_iff.mpr solid
    simp only [cutAfterLine?, cut, Option.map_some, toEnd, List.drop_length]
  · intro rest
    have toEnd : (after ++ '\n' :: rest).takeWhile (· ≠ '\n') = after := by
      rw [List.takeWhile_append_of_pos solid]
      simp
    have cutHere := Text.cut?_append cut (after ++ '\n' :: rest)
    rw [← List.append_assoc] at cutHere
    simp only [cutAfterLine?, cutHere, Option.map_some, toEnd, List.drop_left]

theorem cutAfterLine?_of_untitled (absent : ¬ scoreHeading <:+: line) (rest : Text) :
    cutAfterLine? scoreHeading line = none ∧
      cutAfterLine? scoreHeading (line ++ '\n' :: rest) =
        (cutAfterLine? scoreHeading rest).map fun parts => (line ++ '\n' :: parts.1, parts.2) := by
  refine ⟨by rw [cutAfterLine?, Text.cut?_eq_none_iff.mpr absent, Option.map_none], ?_⟩
  have nowhere : ∀ start ≤ line.length,
      ¬ scoreHeading <+: (line ++ '\n' :: rest).drop start := by
    intro start within stands
    rw [List.drop_append_of_le_length within, Text.prefix_append_cons_iff (by decide)] at stands
    exact absent (stands.isInfix.trans (List.drop_suffix start line).isInfix)
  rw [cutAfterLine?, Text.cut?_append_cons nowhere, cutAfterLine?]
  cases Text.cut? scoreHeading rest with
  | none => rfl
  | some parts =>
      simp only [Option.map_some]
      split <;> simp

theorem ne_nil_of_cutAfterLine {text : Text} {parts : Text × Text}
    (found : cutAfterLine? scoreHeading text = some parts) : parts.1 ≠ [] := by
  have heading : scoreHeading ≠ [] := by decide
  obtain ⟨⟨before, after⟩, _, isParts⟩ := Option.map_eq_some_iff.mp found
  simp only at isParts
  split at isParts <;> cases isParts <;> simp [heading]

theorem insertLine_cons {before : Text} (nonempty : before ≠ []) (line directive after : Text) :
    insertLine (line ++ '\n' :: before) directive after =
      line ++ '\n' :: insertLine before directive after := by
  have sameEnd : (line ++ '\n' :: before).getLast? = before.getLast? := by
    rw [List.getLast?_append_of_ne_nil _ (List.cons_ne_nil _ _),
      List.getLast?_cons_of_ne_nil nonempty]
  simp [insertLine, sameEnd]

theorem lines_addLabel (oneLine : '\n' ∉ directive) (text : Text) :
    Text.lines (addLabel directive text) = labelLines directive (Text.lines text) := by
  induction text using Text.lineInduction with
  | last line lineOnly =>
      rw [Text.lines_of_not_mem lineOnly, labelLines, addLabel]
      by_cases stands : scoreHeading <:+: line
      · have notEnded : line.getLast? ≠ some '\n' := fun isLast =>
          lineOnly (List.mem_of_getLast? isLast)
        rw [(cutAfterLine?_of_titled lineOnly stands).1, if_pos stands]
        simp only [insertLine_of_open directive notEnded, List.append_assoc, List.cons_append,
          Text.lines_cons lineOnly, Text.lines_cons oneLine]
        rfl
      · rw [(cutAfterLine?_of_untitled stands []).1, if_neg stands]
        exact Text.lines_of_not_mem lineOnly
  | line line rest lineOnly induction =>
      rw [Text.lines_cons lineOnly, labelLines, addLabel]
      by_cases stands : scoreHeading <:+: line
      · obtain ⟨first, others, isLines⟩ := exists_lines rest
        simp only [(cutAfterLine?_of_titled lineOnly stands).2, if_pos stands, insertLine_of_ended,
          List.append_assoc, List.cons_append, Text.lines_cons lineOnly, Text.lines_cons oneLine,
          isLines]
        rfl
      · rw [(cutAfterLine?_of_untitled stands rest).2, if_neg stands, ← induction, addLabel]
        cases found : cutAfterLine? scoreHeading rest with
        | none => simp only [Option.map_none, Text.lines_cons lineOnly]
        | some parts =>
            have nonempty := ne_nil_of_cutAfterLine found
            simp only [Option.map_some, insertLine_cons nonempty, Text.lines_cons lineOnly]

end Label

theorem lines_addEnergyLabel (text : Text) :
    Text.lines (addEnergyLabel text) =
      match energyDirective? text with
      | some directive => labelLines directive (Text.lines text)
      | none => Text.lines text := by
  rw [addEnergyLabel_eq]
  cases found : energyDirective? text with
  | none => rfl
  | some directive =>
      obtain ⟨_, _, isLine⟩ := isDirectiveLine_of_energyDirective found
      exact lines_addLabel isLine.oneLine text

section Agreeing

variable {front body rest : List Text} {heading next : Text}

theorem analysisLines_append (nonempty : body ≠ []) (ends : EndsAnalysis next) :
    analysisLines (body ++ next :: rest) = analysisLines body := by
  obtain ⟨first, others, rfl⟩ := List.exists_cons_of_ne_nil nonempty
  have stops : ([] : List Text) = (next :: rest).takeWhile fun line => ¬ EndsAnalysis line := by
    simp [ends]
  simp only [List.cons_append, analysisLines, List.cons.injEq, true_and]
  rw [List.takeWhile_append, ← stops, List.append_nil]
  split <;> rename_i whole
  · exact (List.takeWhile_prefix _).eq_of_length whole |>.symm
  · rfl

theorem analysisLines?_append (untitled : ∀ line ∈ front, ¬ lossTitle <:+ line)
    (titled : lossTitle <:+ heading) (below : List Text) (nonempty : below ≠ []) :
    analysisLines? (front ++ heading :: below) = some (analysisLines below) := by
  obtain ⟨first, others, rfl⟩ := List.exists_cons_of_ne_nil nonempty
  induction front with
  | nil => rw [List.nil_append, analysisLines?, if_pos titled]
  | cons line front induction =>
      have inFront := induction fun line member => untitled line (List.mem_cons_of_mem _ member)
      have untitledLine := untitled line List.mem_cons_self
      cases front with
      | nil => simpa [analysisLines?, untitledLine] using inFront
      | cons _ _ => simpa [analysisLines?, untitledLine] using inFront

/-- Some lines with another below the first that holds the heading of the score. -/
def insertBelow (directive : Text) : List Text → List Text
  | [] => []
  | line :: rest =>
      if scoreHeading <:+: line then line :: directive :: rest
      else line :: insertBelow directive rest

/-- The lines of the analysis when the report has its energy label. -/
def labelBody (front : List Text) (heading : Text) (body : List Text) : Option Text → List Text
  | none => body
  | some directive =>
      if ∃ line ∈ front, scoreHeading <:+: line then body
      else if scoreHeading <:+: heading then directive :: body
      else insertBelow directive body

theorem mem_insertBelow {directive line : Text} {lines : List Text}
    (member : line ∈ insertBelow directive lines) : line = directive ∨ line ∈ lines := by
  induction lines with
  | nil => simp [insertBelow] at member
  | cons first others induction =>
      simp only [insertBelow] at member
      split at member
      · simp only [List.mem_cons] at member ⊢
        tauto
      · rcases List.mem_cons.mp member with rfl | inOthers
        · exact .inr List.mem_cons_self
        · exact (induction inOthers).imp_right (List.mem_cons_of_mem _)

theorem labelLines_append_of_exists (directive : Text) {lines : List Text}
    (stands : ∃ line ∈ lines, scoreHeading <:+: line) (nonempty : rest ≠ []) :
    labelLines directive (lines ++ rest) = insertBelow directive lines ++ rest := by
  induction lines with
  | nil => simp at stands
  | cons line lines induction =>
      by_cases here : scoreHeading <:+: line
      · simp [labelLines, insertBelow, here, nonempty]
      · have later : ∃ line ∈ lines, scoreHeading <:+: line := by simpa [here] using stands
        simp [labelLines, insertBelow, here, induction later]

theorem labelLines_append_of_forall (directive : Text) {lines : List Text}
    (absent : ∀ line ∈ lines, ¬ scoreHeading <:+: line) :
    labelLines directive (lines ++ rest) = lines ++ labelLines directive rest := by
  induction lines with
  | nil => rfl
  | cons line lines induction =>
      obtain ⟨notHere, notLater⟩ := List.forall_mem_cons.mp absent
      simp [labelLines, notHere, induction notLater]

theorem insertBelow_of_forall (directive : Text) {lines : List Text}
    (absent : ∀ line ∈ lines, ¬ scoreHeading <:+: line) : insertBelow directive lines = lines := by
  induction lines with
  | nil => rfl
  | cons line lines induction =>
      obtain ⟨notHere, notLater⟩ := List.forall_mem_cons.mp absent
      simp [insertBelow, notHere, induction notLater]

theorem insertBelow_ne_nil (directive : Text) {lines : List Text} (nonempty : lines ≠ []) :
    insertBelow directive lines ≠ [] := by
  obtain ⟨first, others, rfl⟩ := List.exists_cons_of_ne_nil nonempty
  rw [insertBelow]
  split <;> simp

theorem exists_labelLines (directive line : Text) (lines : List Text) :
    ∃ below, labelLines directive (line :: lines) = line :: below := by
  rw [labelLines]
  split <;> exact ⟨_, rfl⟩

theorem untitled_of_energyDirective {text directive : Text}
    (found : energyDirective? text = some directive) : ¬ lossTitle <:+ directive := by
  rintro ⟨before, whole⟩
  obtain ⟨_, _, isDirective⟩ := energyDirective?_eq_some_iff.mp found
  have isLast := congrArg List.getLast? (whole.trans isDirective.symm)
  have titleEnd : lossTitle.getLast? = some 's' := by decide
  rw [Markup.Directive.write_eq, List.getLast?_append, List.getLast?_append, titleEnd,
    List.getLast?_singleton, Option.some_or, Option.some_or] at isLast
  cases isLast

/-- Whatever follows the line that ends the analysis, the same lines are read. -/
theorem analysisLines?_labelled (untitled : ∀ line ∈ front, ¬ lossTitle <:+ line)
    (titled : lossTitle <:+ heading) (nonempty : body ≠ []) (ends : EndsAnalysis next)
    {text : Text} (isText : Text.lines text = front ++ heading :: (body ++ next :: rest)) :
    analysisLines? (Text.lines (addEnergyLabel text)) =
      some (analysisLines (labelBody front heading body (energyDirective? text))) := by
  rw [lines_addEnergyLabel, isText]
  cases found : energyDirective? text with
  | none =>
      simp only [labelBody]
      rw [analysisLines?_append untitled titled _ (by simp), analysisLines_append nonempty ends]
  | some directive =>
      simp only [labelBody]
      -- The label goes above the title, right below it, into the analysis, or behind it.
      by_cases above : ∃ line ∈ front, scoreHeading <:+: line
      · have stillUntitled : ∀ line ∈ insertBelow directive front, ¬ lossTitle <:+ line := by
          intro line member
          rcases mem_insertBelow member with rfl | inFront
          · exact untitled_of_energyDirective found
          · exact untitled line inFront
        rw [if_pos above, labelLines_append_of_exists directive above (by simp),
          analysisLines?_append stillUntitled titled _ (by simp),
          analysisLines_append nonempty ends]
      · rw [if_neg above, labelLines_append_of_forall directive (by simpa using above), labelLines]
        by_cases inHeading : scoreHeading <:+: heading
        · rw [if_pos inHeading, if_pos inHeading, if_neg (by simp),
            analysisLines?_append untitled titled _ (by simp), ← List.cons_append,
            analysisLines_append (by simp) ends]
        · rw [if_neg inHeading, if_neg inHeading]
          by_cases inBody : ∃ line ∈ body, scoreHeading <:+: line
          · rw [labelLines_append_of_exists directive inBody (by simp),
              analysisLines?_append untitled titled _ (by simp),
              analysisLines_append (insertBelow_ne_nil directive nonempty) ends]
          · have absent : ∀ line ∈ body, ¬ scoreHeading <:+: line := by simpa using inBody
            obtain ⟨below, isNext⟩ := exists_labelLines directive next rest
            rw [labelLines_append_of_forall directive absent,
              insertBelow_of_forall directive absent, isNext,
              analysisLines?_append untitled titled _ (by simp),
              analysisLines_append nonempty ends]

theorem labelBody_of_forall (directive : Option Text)
    (absent : ∀ line ∈ heading :: body, ¬ scoreHeading <:+: line) :
    labelBody front heading body directive = body := by
  obtain ⟨notInHeading, notInBody⟩ := List.forall_mem_cons.mp absent
  cases directive with
  | none => rfl
  | some directive =>
      simp [labelBody, notInHeading, insertBelow_of_forall directive notInBody]

end Agreeing

end EnergyReport.Report.Injection

namespace EnergyReport.Report

open Markup (Reading)

namespace Injection

theorem takeWhile_append_eq_iff {others tail : List Text} :
    ((others ++ tail).takeWhile fun line => ¬ EndsAnalysis line) = others ↔
      (∀ line ∈ others, ¬ EndsAnalysis line) ∧
        ∀ next, tail.head? = some next → EndsAnalysis next := by
  induction others with
  | nil => cases tail <;> simp [List.takeWhile_cons]
  | cons line others induction =>
      by_cases ended : EndsAnalysis line
      · simp [ended]
      · simpa [ended] using induction

/-- When the analysis is made of a given part of the lines. -/
theorem analysisLines_eq_iff {own lines : List Text} (begins : own <+: lines)
    (nonempty : lines ≠ []) :
    analysisLines lines = own ↔
      own ≠ [] ∧ (∀ line ∈ own.tail, ¬ EndsAnalysis line) ∧
        ∀ next, lines[own.length]? = some next → EndsAnalysis next := by
  obtain ⟨tail, rfl⟩ := begins
  cases own with
  | nil =>
      obtain ⟨first, others, rfl⟩ := List.exists_cons_of_ne_nil nonempty
      simp [analysisLines]
  | cons first others =>
      have following : (first :: others ++ tail)[(first :: others).length]? = tail.head? := by
        rw [List.getElem?_append_right (Nat.le_refl _), Nat.sub_self, List.head?_eq_getElem?]
      rw [following, List.cons_append, analysisLines, List.cons.injEq, List.tail_cons]
      simp only [ne_eq, reduceCtorEq, not_false_eq_true, true_and]
      exact takeWhile_append_eq_iff

end Injection

/-- The loss chart of a report is made from the lines below the first title of the analysis, up to
the next line but the first that begins with a number sign and a space. What follows that line has
no part in it, unless the energy label comes from there and goes into the analysis. These lines are
the section of the analysis exactly where the next title is not the first of them and begins like
that, and no other line but the first does. -/
theorem lossLine_reads_lines (text : Text) :
    (match Injection.lossLine? text with
      | none => injectCharts text = Injection.addEnergyLabel text
      | some line => ∃ before rest,
          Injection.addEnergyLabel text = before ++ Injection.lossHeading ++ rest ∧
          injectCharts text = before ++ Injection.lossHeading ++ line ++ '\n' :: rest) ∧
    (Injection.lossLine? text =
      (Injection.analysisLines? (Text.lines (Injection.addEnergyLabel text))).bind fun lines =>
        Injection.lossDirective? (Text.joinLines lines)) ∧
    ∀ (front : List Text) (heading : Text),
      (∀ line ∈ front, ¬ Injection.lossTitle <:+ line) → Injection.lossTitle <:+ heading →
      (∀ (body rest : List Text) (next : Text), body ≠ [] → "# ".toList <+: next →
        Text.lines text = front ++ heading :: (body ++ next :: rest) →
        ∀ (other : Text) (others : List Text),
          Text.lines other = front ++ heading :: (body ++ next :: others) →
          (Injection.energyDirective? text = Injection.energyDirective? other ∨
            ∀ line ∈ heading :: body, ¬ Injection.scoreHeading <:+: line) →
          Injection.lossLine? text = Injection.lossLine? other) ∧
      ∀ below : List Text, below ≠ [] →
        Text.lines (Injection.addEnergyLabel text) = front ++ heading :: below →
        let own := (Reading.start.readLines (front ++ [heading])).1.sectionLines below
        (Injection.analysisLines? (Text.lines (Injection.addEnergyLabel text)) = some own ↔
          own ≠ [] ∧ (∀ line ∈ own.tail, ¬ "# ".toList <+: line) ∧
            ∀ next, below[own.length]? = some next → "# ".toList <+: next) := by
  refine ⟨Injection.injectCharts_of_lossLine text, Injection.lossLine?_eq text,
    fun front heading untitled titled => ⟨?_, ?_⟩⟩
  · intro body rest next nonempty ends isText other others isOther label
    rw [Injection.lossLine?_eq, Injection.lossLine?_eq,
      Injection.analysisLines?_labelled untitled titled nonempty ends isText,
      Injection.analysisLines?_labelled untitled titled nonempty ends isOther]
    rcases label with same | absent
    · rw [same]
    · rw [Injection.labelBody_of_forall _ absent, Injection.labelBody_of_forall _ absent]
  · intro below nonempty isLabelled own
    rw [isLabelled, Injection.analysisLines?_append untitled titled below nonempty,
      Option.some.injEq]
    exact Injection.analysisLines_eq_iff (Reading.sectionLines_initial _ below) nonempty

/-- The two rows of an analysis, and the title of the next section. -/
def twoRows : List Text :=
  ["| Murs | 30 % |", "| Toiture | 20 % |", "# Suite"].map String.toList

theorem lossLine_reads_lines_twoRows :
    let heading := "# Analyse des déperditions".toList
    let row := "| Planchers | 10 % |".toList
    let text := Text.joinLines (heading :: twoRows ++ [row])
    let other := Text.joinLines (heading :: twoRows ++ ["Fin".toList])
    let state := (Reading.start.readLines [heading]).1
    Injection.lossLine? text = Injection.lossLine? other ∧
      Injection.lossLine? other =
        some "<!-- chart-deperditions:\x7b\"murs\":30,\"toiture\":20\x7d -->".toList ∧
      Injection.analysisLines? (Text.lines (Injection.addEnergyLabel text)) =
        some (state.sectionLines (twoRows ++ [row])) := by
  intro heading row text other state
  obtain ⟨_, _, titled⟩ := lossLine_reads_lines text
  obtain ⟨agreeing, exactly⟩ := titled [] heading (by decide) (by decide)
  have own : state.sectionLines (twoRows ++ [row]) = twoRows.take 2 := by decide +kernel
  refine ⟨?_, by decide +kernel, (exactly (twoRows ++ [row]) (by decide) ?_).mpr ?_⟩
  · exact agreeing (twoRows.take 2) [row] "# Suite".toList (by decide) (by decide)
      (by decide +kernel) other ["Fin".toList] (by decide +kernel) (.inr (by decide +kernel))
  · decide +kernel
  · simp only [List.nil_append]
    rw [own]
    refine ⟨by decide, by decide, fun next found => ?_⟩
    cases found
    decide

/-- Where the next section follows the title at once, its lines are read. -/
example :
    let lines := ["# Suite", "| Murs | 30 % |"].map String.toList
    Injection.analysisLines lines = lines ∧ Reading.start.sectionLines lines = [] := by
  decide

end EnergyReport.Report
