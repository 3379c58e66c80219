import EnergyReport.Proofs.Markup.Trimming
import EnergyReport.Proofs.Report.InsertedCharts
import EnergyReport.Proofs.Report.Phrase

namespace EnergyReport.Report

open Markup

/-! Reports whose lines end with a carriage return before the line feed.

The figures of the energy label are found in them, and so is the heading of the score: both are
searched for without line ends. The heading of the loss analysis is searched for with the line
feed directly after it, which no such report has. -/

/-! ### Phrases -/

theorem afterPhrase?_crlf {phrase : List Text} (unbroken : ∀ word ∈ phrase, Text.Unbroken word)
    (text : Text) :
    afterPhrase? phrase (Text.crlf text) = (afterPhrase? phrase text).map Text.crlf := by
  induction phrase generalizing text with
  | nil => rfl
  | cons word others ih =>
      obtain ⟨here, later⟩ := List.forall_mem_cons.mp unbroken
      cases others with
      | nil => exact Text.stripWord?_crlf here text
      | cons next more =>
          simp only [afterPhrase?, Text.stripWord?_crlf here]
          cases stripped : Text.stripWord? word text with
          | none => rfl
          | some after =>
              cases after with
              | nil => rfl
              | cons c rest =>
                  by_cases feed : c = '\n'
                  -- the return and the line feed are both blanks of the gap
                  · have blanks : Text.isBlank '\r' ∧ Text.isBlank '\n' := by decide
                    have skipped : Text.trimStart ('\n' :: Text.crlf rest) =
                        Text.crlf (Text.trimStart rest) := by
                      rw [← Text.trimStart_crlf, Text.trimStart,
                        List.dropWhile_cons_of_pos blanks.2, Text.trimStart]
                    simp [feed, blanks, skipped, ih later]
                  · simp only [Option.map_some, Text.crlf_cons feed, Text.trimStart_crlf, ih later]
                    split <;> rfl

theorem afterBar?_crlf (text : Text) :
    afterBar? (Text.crlf text) = (afterBar? text).map Text.crlf := by
  have head := List.head?_dropWhile_not (· ≠ '|') text
  rw [afterBar?, afterBar?, Text.dropWhile_crlf (by decide)]
  cases dropped : text.dropWhile (· ≠ '|') with
  | nil => rfl
  | cons c rest =>
      rw [dropped] at head
      have bar : c = '|' := by simpa using head
      rw [bar]
      rfl

theorem afterDirectBar?_crlf (text : Text) :
    afterDirectBar? (Text.crlf text) = (afterDirectBar? text).map Text.crlf := by
  rw [afterDirectBar?, afterDirectBar?, Text.trimStart_crlf, Text.strip?_crlf (by decide)]

theorem leadingLetter?_crlf (text : Text) :
    Chart.Grade.leadingLetter? (Text.crlf text) = Chart.Grade.leadingLetter? text := by
  cases text with
  | nil => rfl
  | cons c rest =>
      by_cases feed : c = '\n'
      · subst feed
        rfl
      · rw [Text.crlf_cons feed]
        rfl

namespace Injection

/-! ### The energy label -/

theorem energyLetter?_crlf (text : Text) : energyLetter? (Text.crlf text) = energyLetter? text := by
  have unbroken : ∀ word ∈ energyPhrase, Text.Unbroken word := by decide
  refine Text.firstMatch_crlf (fun place => ?_) (fun rest => ?_) text
  · simp only [Option.bind_eq_bind, afterPhrase?_crlf unbroken, Option.bind_map,
      Function.comp_def, afterDirectBar?_crlf, Text.trimStart_crlf, leadingLetter?_crlf]
  · rfl

theorem emissionsLetter?_crlf (text : Text) :
    emissionsLetter? (Text.crlf text) = emissionsLetter? text := by
  have unbroken : ∀ word ∈ emissionsPhrase, Text.Unbroken word := by decide
  refine Text.firstMatch_crlf (fun place => ?_) (fun rest => ?_) text
  · simp only [Option.bind_eq_bind, afterPhrase?_crlf unbroken, Option.bind_map,
      Function.comp_def, afterBar?_crlf, Text.trimStart_crlf, leadingLetter?_crlf]
  · rfl

theorem energyDirective?_crlf (text : Text) :
    energyDirective? (Text.crlf text) = energyDirective? text := by
  rw [energyDirective?, energyDirective?, energyLetter?_crlf, emissionsLetter?_crlf]

end Injection

/-- The place in the text with returns; the line above may end with one. -/
def Insertion.crlf (place : Insertion) : Insertion where
  upTo := Text.crlf place.upTo ++ if place.rest.isSome then ['\r'] else []
  line := place.line
  rest := place.rest.map Text.crlf

namespace Injection

theorem energyInsertion?_crlf (text : Text) :
    energyInsertion? (Text.crlf text) = (energyInsertion? text).map Insertion.crlf := by
  have unbroken : Text.Unbroken scoreHeading := by decide
  unfold energyInsertion?
  rw [energyDirective?_crlf, Text.cut?_crlf (by decide) unbroken]
  cases energyDirective? text with
  | none => rfl
  | some directive =>
      cases Text.cut? scoreHeading text with
      | none => rfl
      | some parts =>
          obtain ⟨before, after⟩ := parts
          obtain ⟨line, ended, taken, dropped, rfl, oneLine, ends⟩ := Text.exists_line after
          have heading : Text.crlf (before ++ (scoreHeading ++ line)) =
              Text.crlf before ++ (scoreHeading ++ line) := by
            rw [Text.crlf_append, Text.crlf_append, Text.crlf_of_not_mem unbroken.2,
              Text.crlf_of_not_mem oneLine]
          simp only [Option.map_some, Prod.map_apply, Text.crlf_append,
            Text.crlf_of_not_mem oneLine, taken, dropped]
          rcases ends with rfl | ⟨rest, rfl⟩
          · simp only [Text.crlf_nil, List.append_nil, (Text.takeWhile_line oneLine []).2]
            simp [Insertion.crlf, heading]
          · have returned : '\n' ∉ line ++ ['\r'] := by simp [oneLine]
            have whole : line ++ Text.crlf ('\n' :: rest) =
                (line ++ ['\r']) ++ '\n' :: Text.crlf rest := by
              simp
            rw [whole, (Text.takeWhile_line returned _).1, List.drop_left]
            simp [Insertion.crlf, heading]

/-- Below the heading of the score the label stands in both texts, and their lines are the same
but for the returns. -/
theorem map_trim_lines_addEnergyLabel_crlf (text : Text) :
    (Text.lines (dropByteOrderMark (addEnergyLabel (Text.crlf text)))).map Text.trim =
      (Text.lines (dropByteOrderMark (addEnergyLabel text))).map Text.trim := by
  have moved := energyInsertion?_crlf text
  cases found : energyInsertion? text with
  | none =>
      rw [found] at moved
      rw [addEnergyLabel_of_none moved, addEnergyLabel_of_none found]
      exact map_trim_lines_crlf text
  | some place =>
      rw [found] at moved
      obtain ⟨_, fits⟩ := fits_of_energyInsertion found
      obtain ⟨_, fitsMoved⟩ := fits_of_energyInsertion moved
      have above : place.crlf.linesBefore.map Text.trim = place.linesBefore.map Text.trim := by
        have ends : (if place.rest.isSome then ['\r'] else []) = [] ∨
            (if place.rest.isSome then ['\r'] else []) = ['\r'] := by
          cases place.rest <;> simp
        rw [Insertion.linesBefore, Insertion.crlf,
          dropByteOrderMark_append (Text.crlf_ne_nil fits.nonempty), dropByteOrderMark_crlf]
        exact Text.map_trim_lines_crlf ends _
      have below : (Text.lines (place.crlf.rest.getD [])).map Text.trim =
          (Text.lines (place.rest.getD [])).map Text.trim := by
        have same : place.crlf.rest.getD [] = Text.crlf (place.rest.getD []) ++ [] := by
          cases rest : place.rest <;> simp [Insertion.crlf, rest]
        rw [same]
        exact Text.map_trim_lines_crlf (.inl rfl) _
      rw [fitsMoved.lines_result, fits.lines_result, List.map_append, List.map_append,
        List.map_cons, List.map_cons, above, below]
      rfl

/-! ### The loss chart -/

/-- No line feed follows an s, with which the heading of the loss analysis ends. -/
abbrev Returned (c next : Char) : Prop :=
  next = '\n' → c ≠ 's'

theorem not_isChain_lossHeading (before after : Text) :
    ¬ (before ++ lossHeading ++ after).IsChain Returned := by
  have heading : lossHeading = lossTitle.dropLast ++ ['s', '\n'] := by decide
  intro chain
  have ends := chain.left_of_append.right_of_append
  rw [heading] at ends
  have last := ends.right_of_append
  simp [Returned] at last

theorem cut?_lossHeading_of_isChain {text : Text} (chain : text.IsChain Returned) :
    Text.cut? lossHeading text = none := by
  cases found : Text.cut? lossHeading text with
  | none => rfl
  | some parts =>
      rw [Text.eq_append_of_cut found] at chain
      exact absurd chain (not_isChain_lossHeading _ _)

theorem isChain_crlf (text : Text) : (Text.crlf text).IsChain Returned := by
  induction text with
  | nil => exact .nil
  | cons c rest ih =>
      have head : ∀ next ∈ (Text.crlf rest).head?, next ≠ '\n' := by
        cases rest with
        | nil => simp
        | cons d more =>
            by_cases feed : d = '\n'
            · simp [feed]
            · simp [Text.crlf_cons feed, feed]
      by_cases feed : c = '\n'
      · rw [feed, Text.crlf_newline, List.isChain_cons_cons, List.isChain_cons]
        exact ⟨by simp [Returned], by simp [Returned], ih⟩
      · rw [Text.crlf_cons feed, List.isChain_cons]
        exact ⟨fun next member isFeed => absurd isFeed (head next member), ih⟩

theorem mem_of_afterCompound {phrase : List Text} {text rest : Text}
    (found : afterCompound? phrase text = some rest) : ∀ c ∈ rest, c ∈ text := by
  induction phrase generalizing text with
  | nil =>
      cases found
      exact fun _ member => member
  | cons word others ih =>
      have stripped {after : Text} (here : Text.stripWord? word text = some after) :
          ∀ c ∈ after, c ∈ text := by
        obtain ⟨taken, _, rfl⟩ := Text.stripWord?_eq_some_iff.mp here
        exact fun c member => List.mem_append_right taken member
      cases others with
      | nil => exact stripped found
      | cons next more =>
          simp only [afterCompound?] at found
          split at found
          · rename_i after here
            intro c member
            exact stripped here c ((List.dropWhile_sublist _).subset (ih found c member))
          · contradiction

/-- Without bars and percent signs an analysis tells no percentages. -/
theorem percentages_eq_nil {analysis : Text} (barless : '|' ∉ analysis)
    (signless : '%' ∉ analysis) : percentages analysis = [] := by
  have inside {start : Nat} {keyword : List Text} {after : Text} {c : Char}
      (found : afterCompound? keyword (analysis.drop start) = some after) (member : c ∈ after) :
      c ∈ analysis :=
    List.mem_of_mem_drop (mem_of_afterCompound found c member)
  have table (keyword : List Text) : tableDigits? keyword analysis = none := by
    refine Text.firstMatch_eq_none_iff.mpr fun start _ => ?_
    rw [Option.eq_none_iff_forall_ne_some]
    intro digits found
    simp only [Option.bind_eq_bind, Option.bind_eq_some_iff] at found
    obtain ⟨after, compound, cell, bar, _⟩ := found
    obtain ⟨gap, _, rfl⟩ := afterBar?_eq_some_iff.mp bar
    exact barless (inside compound (by simp))
  have prose (keyword : List Text) : proseDigits? keyword analysis = none := by
    refine Text.firstMatch_eq_none_iff.mpr fun start _ => ?_
    rw [Option.eq_none_iff_forall_ne_some]
    intro digits found
    simp only [Option.bind_eq_bind, Option.bind_eq_some_iff] at found
    obtain ⟨after, compound, found⟩ := found
    split at found
    · contradiction
    · simp only [Option.bind_eq_some_iff] at found
      obtain ⟨_, _, rest, sign, _⟩ := found
      have begins := Text.strip?_eq_some_iff.mp sign
      have member : '%' ∈ ['%'] ++ rest := by simp
      rw [← begins] at member
      have inValue := (List.dropWhile_sublist _).subset member
      exact signless (inside compound (List.mem_of_mem_drop (List.mem_of_mem_drop inValue)))
  simp [percentages, percentage?, keywordDigits?, table, prose]

theorem mem_of_mem_analysisOf {rest : Text} {c : Char} (member : c ∈ analysisOf rest) :
    c ∈ rest := by
  unfold analysisOf at member
  split at member
  · rename_i cut
    rw [Text.eq_append_of_cut cut, List.append_assoc]
    exact List.mem_append_left _ member
  · exact member

/-- The line of the energy label does not end as a heading does, and it tells no percentages. -/
theorem line_of_energyDirective {text line : Text} (found : energyDirective? text = some line) :
    line.getLast? = some '>' ∧ '%' ∉ line := by
  obtain ⟨letter, energy, rfl⟩ := energyDirective?_eq_some_iff.mp found
  have value {letter : Char} (isLetter : Chart.Grade.isLetter letter) :
      '%' ∉ (gradeValue letter).content := by
    obtain ⟨grade, capital⟩ := Chart.Grade.exists_of_isLetter isLetter
    rw [gradeValue, capital]
    cases grade <;> decide
  have keys : '%' ∉ Chart.energyKey ∧ '%' ∉ Chart.emissionsKey ∧ '%' ∉ Json.punctuation := by
    decide
  have payload : '%' ∉ Json.writeObject (gradeMembers letter (emissionsLetter? text)) := by
    intro sign
    rcases Json.mem_writeObject sign with mark | ⟨member, listed, inMember⟩
    · exact keys.2.2 mark
    · unfold gradeMembers at listed
      cases emissions : emissionsLetter? text with
      | none =>
          simp only [emissions, List.mem_singleton] at listed
          subst listed
          exact inMember.elim keys.1 (value (isLetter_of_energyLetter energy))
      | some other =>
          simp only [emissions, List.mem_cons, List.not_mem_nil, or_false] at listed
          rcases listed with rfl | rfl
          · exact inMember.elim keys.1 (value (isLetter_of_energyLetter energy))
          · exact inMember.elim keys.2.1 (value (isLetter_of_emissionsLetter emissions))
  have name : '%' ∉ energyLabelName := by decide
  refine ⟨?_, ?_⟩
  · rw [Directive.write_eq]
    exact List.getLast?_concat
  · simp [Directive.write, Directive.commentStart, Directive.commentEnd, Directive.namePart, name,
      payload]

/-- Where the line above ends with a return, so do all lines but that of the label. -/
theorem isChain_result_crlf {place : Insertion} {directive : Directive} {below : Text}
    (rest : place.rest = some below) (line : IsDirectiveLine place.line directive)
    (ends : place.line.getLast? = some '>') : place.crlf.result.IsChain Returned := by
  have whole : place.crlf.result =
      Text.crlf (place.upTo ++ ['\n']) ++ (place.line ++ '\n' :: Text.crlf below) := by
    simp [Insertion.result, Insertion.crlf, rest, Text.crlf_append]
  have oneLine : place.line.IsChain Returned := by
    refine (List.pairwise_of_forall_mem_list fun c _ next member feed => ?_).isChain
    exact absurd (feed ▸ member) line.oneLine
  rw [whole]
  refine (isChain_crlf _).append (oneLine.append ?_ ?_) ?_
  · rw [List.isChain_cons]
    exact ⟨by simp [Returned], isChain_crlf below⟩
  · intro c last next _ _
    rw [ends] at last
    cases last
    decide
  · intro c last next _ _
    have feed : (Text.crlf (place.upTo ++ ['\n'])).getLast? = some '\n' := by
      simp [Text.crlf_append]
    rw [feed] at last
    cases last
    decide

/-- Where the line above is the last one, the heading can only stand in it. -/
theorem mem_line_of_lossHeading {place : Insertion} {before after : Text}
    (rest : place.rest = none) (heading : place.crlf.result = before ++ lossHeading ++ after) :
    ∀ c ∈ after, c ∈ '\n' :: (place.line ++ ['\n']) := by
  have whole : before ++ lossTitle ++ '\n' :: after =
      Text.crlf place.upTo ++ '\n' :: (place.line ++ ['\n']) := by
    simpa [Insertion.result, Insertion.crlf, rest, lossHeading_eq] using heading.symm
  intro c member
  -- the heading ends with the line above, before it, or in the label
  rw [List.append_eq_append_iff] at whole
  rcases whole with ⟨skipped, inAbove, remaining⟩ | ⟨skipped, _, remaining⟩
  · cases skipped with
    | nil =>
        rw [List.nil_append, List.cons.injEq] at remaining
        exact List.mem_cons_of_mem _ (remaining.2 ▸ member)
    | cons feed more =>
        rw [List.cons_append, List.cons.injEq] at remaining
        have above := isChain_crlf place.upTo
        rw [inAbove, ← remaining.1] at above
        refine absurd ?_ (not_isChain_lossHeading before more)
        simpa [lossHeading_eq] using above
  · rw [remaining]
    exact List.mem_append_right _ (List.mem_cons_of_mem _ member)

/-- No report with returns has the heading of a loss analysis. Where the label ends its last line,
which no return does, the label is all that the analysis holds. -/
theorem lossInsertion?_crlf (text : Text) :
    lossInsertion? (addEnergyLabel (Text.crlf text)) = none := by
  have moved := energyInsertion?_crlf text
  cases found : energyInsertion? text with
  | none =>
      rw [found] at moved
      rw [addEnergyLabel_of_none moved, lossInsertion?,
        cut?_lossHeading_of_isChain (isChain_crlf text)]
  | some place =>
      rw [found] at moved
      obtain ⟨_, fits⟩ := fits_of_energyInsertion moved
      obtain ⟨ends, signless⟩ := line_of_energyDirective (line_of_energyInsertion found)
      rw [← fits.result]
      cases rest : place.rest with
      | some below =>
          rw [lossInsertion?, cut?_lossHeading_of_isChain (isChain_result_crlf rest fits.line ends)]
      | none =>
          -- without a line end there is no return: the label may end the line of the heading
          cases cut : Text.cut? lossHeading place.crlf.result with
          | none => rw [lossInsertion?, cut]
          | some parts =>
              have within := mem_line_of_lossHeading rest (Text.eq_append_of_cut cut)
              have absent {c : Char} (other : c ≠ '\n') (notInLine : c ∉ place.line) :
                  c ∉ analysisOf parts.2 := by
                intro member
                have among := within c (mem_of_mem_analysisOf member)
                simp [other, notInLine] at among
              have nothing := percentages_eq_nil (absent (by decide) fits.line.barless)
                (absent (by decide) signless)
              simp [lossInsertion?, cut, lossDirective?, nothing, leastPercentages]

end Injection

/-- Returns at the ends of its lines keep the loss chart out of a report and change nothing else:
its sections are the same and its energy label is. So its page is the same exactly where there is
no loss chart, or an empty one that severs nothing. -/
theorem injectCharts_crlf (text : Text) :
    (Body.ofText (injectCharts (Text.crlf text))).sections =
        (Body.ofText (injectCharts text)).sections ∧
      page (injectCharts (Text.crlf text)) = page (Injection.addEnergyLabel text) ∧
      (page (injectCharts (Text.crlf text)) = page (injectCharts text) ↔
        pageOf (lossChart text) = [] ∧
          ∀ place, Injection.lossInsertion? (Injection.addEnergyLabel text) = some place →
            ¬ place.Severs) := by
  have step := Step.addLossChart (Injection.addEnergyLabel text)
  have lossless : injectCharts (Text.crlf text) = Injection.addEnergyLabel (Text.crlf text) :=
    Injection.addLossChart_of_none (Injection.lossInsertion?_crlf text)
  obtain ⟨pieces, sections⟩ :=
    Body.pieces_eq_of_trim (Injection.map_trim_lines_addEnergyLabel_crlf text)
  have labelled : page (injectCharts (Text.crlf text)) = page (Injection.addEnergyLabel text) := by
    rw [lossless, page, page, pieces]
  refine ⟨?_, labelled, ?_⟩
  · rw [lossless, sections]
    exact step.sections_eq.symm
  · rw [labelled, injectCharts]
    constructor
    · intro same
      -- what is severed shows in the length of the page or in its ampersands
      have whole : ∀ place,
          Injection.lossInsertion? (Injection.addEnergyLabel text) = some place →
            ¬ place.Severs := by
        intro place takes severs
        have grows := step.grows_of_severs takes severs
        rw [← same] at grows
        omega
      obtain ⟨above, below, before, after⟩ := step.exists_of_not_severs whole
      have lengths := congrArg List.length same
      simp only [page_eq, before, after, pageOf_append, List.length_append] at lengths
      have empty : (pageOf (lossChart text)).length = 0 := by
        rw [lossChart]
        omega
      exact ⟨List.eq_nil_of_length_eq_zero empty, whole⟩
    · rintro ⟨empty, whole⟩
      obtain ⟨above, below, before, after⟩ := step.exists_of_not_severs whole
      rw [lossChart] at empty
      simp only [page_eq, before, after, pageOf_append, empty, List.append_nil]

end EnergyReport.Report
