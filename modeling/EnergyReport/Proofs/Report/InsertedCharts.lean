import EnergyReport.Proofs.Markup.Weight
import EnergyReport.Proofs.Report.Insertion

namespace EnergyReport.Report

open Markup

/-! What the directives that are put into a report do to its page.

They add their charts and leave everything else as it is, unless the line that the heading was
found in belongs to a callout, or stands between two items of a list or two rows of a table:
headings are found by their text alone, wherever it stands. -/

/-- Two parts are put into a list, one before the other, and everything else stays. -/
def Adds {α : Type} (first second before after : List α) : Prop :=
  ∃ above between below, before = above ++ between ++ below ∧
    (after = above ++ first ++ between ++ second ++ below ∨
      after = above ++ second ++ between ++ first ++ below)

/-- Two parts are put into a list, each once at most. -/
def AddsAtMost {α : Type} (first second before after : List α) : Prop :=
  ∃ one ∈ [[], first], ∃ other ∈ [[], second], Adds one other before after

theorem Adds.atMost {α : Type} {first second before after : List α}
    (adds : Adds first second before after) : AddsAtMost first second before after :=
  ⟨first, by simp, second, by simp, adds⟩

/-- Two insertions after each other add both parts; a part of one element is not torn. -/
theorem Adds.of_steps {α : Type} {first second above below above' below' : List α}
    (short : first.length ≤ 1) (same : above ++ first ++ below = above' ++ below') :
    Adds first second (above ++ below) (above' ++ second ++ below') := by
  rw [List.append_assoc, List.append_eq_append_iff] at same
  rcases same with ⟨skipped, rfl, rest⟩ | ⟨skipped, rfl, rest⟩
  · rw [List.append_eq_append_iff] at rest
    rcases rest with ⟨more, rfl, rfl⟩ | ⟨torn, rfl, rfl⟩
    · exact ⟨above, more, below', by simp, .inl (by simp)⟩
    · cases skipped with
      | nil => exact ⟨above, [], below, by simp, .inr (by simp)⟩
      | cons part more =>
          have none : more = [] ∧ torn = [] := by
            simp only [List.length_append, List.length_cons] at short
            constructor <;> apply List.eq_nil_of_length_eq_zero <;> omega
          obtain ⟨rfl, rfl⟩ := none
          exact ⟨above, [], below, by simp, .inl (by simp)⟩
  · exact ⟨above', skipped, below, by simp, .inr (by simp [rest])⟩

/-! ### Pages -/

def pageOf (blocks : List Block) : Text :=
  (Html.render (blocks.flatMap Block.pieces)).toList

def page (text : Text) : Text :=
  (Html.render (Body.ofText text).pieces).toList

theorem page_eq (text : Text) : page text = pageOf (Body.ofText text).blocks := rfl

theorem pageOf_append (first second : List Block) :
    pageOf (first ++ second) = pageOf first ++ pageOf second := by
  simp [pageOf, Html.render_append]

theorem weigh_pageOf_nil (weight : Weight) : weight.weigh (pageOf []) = 0 :=
  weight.weigh_nil

theorem weigh_pageOf_append (weight : Weight) (first second : List Block) :
    weight.weigh (pageOf (first ++ second)) =
      weight.weigh (pageOf first) + weight.weigh (pageOf second) := by
  rw [pageOf_append, weight.append]

theorem weigh_pageOf_cons (weight : Weight) (block : Block) (rest : List Block) :
    weight.weigh (pageOf (block :: rest)) =
      weight.of block.pieces + weight.weigh (pageOf rest) := by
  have alone : weight.weigh (pageOf [block]) = weight.of block.pieces := by
    simp [pageOf, Weight.of]
  rw [← alone, ← weigh_pageOf_append]
  rfl

theorem AddsAtMost.pageOf {first second before after : List Block}
    (adds : AddsAtMost first second before after) :
    AddsAtMost (pageOf first) (pageOf second) (pageOf before) (pageOf after) := by
  have part {whole some : List Block} (member : some ∈ [[], whole]) :
      Report.pageOf some ∈ [[], Report.pageOf whole] := by
    simp only [List.mem_cons, List.not_mem_nil, or_false] at member ⊢
    rcases member with rfl | rfl
    · exact .inl rfl
    · exact .inr rfl
  obtain ⟨one, isFirst, other, isSecond, above, between, below, rfl, order⟩ := adds
  refine ⟨_, part isFirst, _, part isSecond, Report.pageOf above, Report.pageOf between,
    Report.pageOf below, by simp [pageOf_append], ?_⟩
  rcases order with rfl | rfl
  · exact .inl (by simp [pageOf_append])
  · exact .inr (by simp [pageOf_append])

/-! ### One insertion -/

namespace Insertion

def linesBefore (place : Insertion) : List Text :=
  Text.lines (dropByteOrderMark place.upTo)

def linesAfter (place : Insertion) : List Text :=
  match place.rest with
  | some rest => Text.lines rest
  | none => []

/-- Whether the line above belongs to a callout, or to a list or table that goes on below. -/
def Severs (place : Insertion) : Prop :=
  Grammar.Severs place.linesBefore place.linesAfter

/-- The chart that the line asks for. -/
def charts (place : Insertion) : List Block :=
  (Directive.ofLine? place.line).toList.map .chart

variable {place : Insertion} {text result : Text} {directive : Directive}

theorem Fits.blocks_source (fits : place.Fits text result directive) :
    (Body.ofText text).blocks =
      Grammar.blocksOfLines (place.linesBefore ++ place.linesAfter) := by
  rw [Body.blocks_ofText, Grammar.blocks, ← fits.source, Insertion.source, linesBefore, linesAfter]
  cases place.rest with
  | none => simp [Grammar.blocksOfLines]
  | some rest =>
      simp only [dropByteOrderMark_append fits.nonempty, Text.lines_append_newline]
      rfl

theorem Fits.lines_result (fits : place.Fits text result directive) :
    Text.lines (dropByteOrderMark result) =
      place.linesBefore ++ place.line :: Text.lines (place.rest.getD []) := by
  rw [← fits.result, Insertion.result, List.append_assoc, dropByteOrderMark_append fits.nonempty,
    List.cons_append, Text.lines_append_newline, Text.lines_append_newline,
    Text.lines_of_not_mem fits.line.oneLine]
  rfl

theorem Fits.blocks_result (fits : place.Fits text result directive) :
    (Body.ofText result).blocks =
      Grammar.blocksOfLines
        (place.linesBefore ++ place.line :: Text.lines (place.rest.getD [])) := by
  rw [Body.blocks_ofText, Grammar.blocks, fits.lines_result]
  rfl

theorem resumes (place : Insertion) :
    Grammar.Resumes place.linesAfter (Text.lines (place.rest.getD [])) := by
  unfold linesAfter
  cases place.rest with
  | none => exact .inr ⟨rfl, rfl⟩
  | some rest => exact .inl rfl

theorem Fits.charts_eq (fits : place.Fits text result directive) :
    place.charts = [.chart directive] := by
  simp [charts, fits.line.read]

theorem Fits.classify (fits : place.Fits text result directive) :
    Line.classify (Text.trim place.line) = .chart directive := by
  rw [fits.line.trimmed]
  exact Line.classify_of_ofLine fits.line.read

theorem Fits.unnamed (fits : place.Fits text result directive) :
    Grammar.markerName? place.line = none := by
  obtain ⟨rest, begins⟩ := Directive.exists_comment_of_ofLine fits.line.read
  rw [Grammar.markerName?, fits.line.trimmed, begins]
  rfl

/-- What an insertion does to the blocks. -/
inductive Effect (place : Insertion) (directive : Directive) : List Block → List Block → Prop where
  | between (outside : ¬ place.Severs) (above below : List Block) :
      Effect place directive (above ++ below) (above ++ .chart directive :: below)
  | split (inside : place.Severs) (above below : List Block) {whole left right : Block}
      (split : Block.Split whole left right) :
      Effect place directive (above ++ whole :: below)
        (above ++ left :: .chart directive :: right :: below)
  | callout (inside : place.Severs) (above below : List Block) (kind : CalloutKind)
      (first : List Text) {rest resumed : List Text} (resumes : Grammar.Resumes rest resumed) :
      Effect place directive (above ++ .callout kind (first ++ rest) :: below)
        (above ++ .callout kind (first ++ place.line :: resumed) :: below)

theorem Fits.effect (fits : place.Fits text result directive) :
    Effect place directive (Body.ofText text).blocks (Body.ofText result).blocks := by
  rw [fits.blocks_source, fits.blocks_result]
  by_cases inside : place.Severs
  · cases stays : Grammar.calloutOpen false place.linesBefore with
    | true =>
        obtain ⟨above, kind, first, rest, resumed, below, keeps, before, after⟩ :=
          Grammar.blocksOfLines_of_calloutOpen fits.unnamed place.resumes stays
        rw [before, after]
        exact .callout inside above below kind first keeps
    | false =>
        have within := inside.resolve_left (by simp [stays])
        obtain ⟨above, whole, left, right, below, split, before, after⟩ :=
          Grammar.blocksOfLines_of_joins fits.unnamed fits.classify place.resumes stays within
        rw [before, after]
        exact .split inside above below split
  · obtain ⟨above, below, before, after⟩ := Grammar.blocksOfLines_of_not_severs fits.unnamed
      fits.classify place.resumes inside
    rw [before, after]
    exact .between inside above below

namespace Effect

variable {before after : List Block}

theorem sections_eq (effect : Effect place directive before after) :
    after.filterMap Block.section? = before.filterMap Block.section? := by
  cases effect with
  | between outside above below => simp [List.filterMap_cons, Block.section?]
  | split inside above below split =>
      cases split <;> simp [List.filterMap_cons, Block.section?]
  | callout inside above below kind first keeps =>
      simp [List.filterMap_cons, Block.section?]

theorem exists_of_not_severs (effect : Effect place directive before after)
    (outside : ¬ place.Severs) :
    ∃ above below, before = above ++ below ∧ after = above ++ [.chart directive] ++ below := by
  cases effect with
  | between _ above below => exact ⟨above, below, rfl, by simp⟩
  | split inside => exact absurd inside outside
  | callout inside => exact absurd inside outside

theorem weigh_callout_lt (line : IsDirectiveLine place.line directive) (kind : CalloutKind)
    (first : List Text) {rest resumed : List Text} (keeps : Grammar.Resumes rest resumed) :
    Weight.ampersands.of (Block.callout kind (first ++ rest)).pieces <
      Weight.ampersands.of (Block.callout kind (first ++ place.line :: resumed)).pieces := by
  obtain ⟨comment, begins⟩ := Directive.exists_comment_of_ofLine line.read
  exact Weight.ampersands_callout_lt kind keeps (line.trimmed.trans begins)

theorem ampersands_le (effect : Effect place directive before after)
    (line : IsDirectiveLine place.line directive) :
    Weight.ampersands.weigh (pageOf before) ≤ Weight.ampersands.weigh (pageOf after) := by
  cases effect with
  | between outside above below =>
      simp only [weigh_pageOf_append, weigh_pageOf_cons]
      omega
  | split inside above below split =>
      obtain ⟨frame, _, heavier⟩ := Weight.of_split split
      have more := heavier Weight.ampersands
      simp only [weigh_pageOf_append, weigh_pageOf_cons]
      omega
  | callout inside above below kind first keeps =>
      have more := weigh_callout_lt line kind first keeps
      simp only [weigh_pageOf_append, weigh_pageOf_cons]
      omega

/-- The page grows by the chart at least, unless the line is shown in a callout. -/
theorem length_le (effect : Effect place directive before after)
    (line : IsDirectiveLine place.line directive)
    (same : Weight.ampersands.weigh (pageOf after) ≤ Weight.ampersands.weigh (pageOf before)) :
    (pageOf before).length + (pageOf [.chart directive]).length ≤ (pageOf after).length := by
  have length : ∀ text : Text, text.length = Weight.length.weigh text := fun _ => rfl
  simp only [length]
  cases effect with
  | between outside above below =>
      simp only [weigh_pageOf_append, weigh_pageOf_cons, weigh_pageOf_nil]
      omega
  | split inside above below split =>
      obtain ⟨frame, _, heavier⟩ := Weight.of_split split
      have more := heavier Weight.length
      simp only [weigh_pageOf_append, weigh_pageOf_cons, weigh_pageOf_nil]
      omega
  | callout inside above below kind first keeps =>
      have more := weigh_callout_lt line kind first keeps
      simp only [weigh_pageOf_append, weigh_pageOf_cons] at same
      omega

/-- Where something is severed the page grows by more than the chart, or has more
ampersands. -/
theorem grows_of_severs (effect : Effect place directive before after)
    (line : IsDirectiveLine place.line directive) (inside : place.Severs) :
    Weight.ampersands.weigh (pageOf before) < Weight.ampersands.weigh (pageOf after) ∨
      (pageOf before).length + (pageOf [.chart directive]).length < (pageOf after).length := by
  have length : ∀ text : Text, text.length = Weight.length.weigh text := fun _ => rfl
  simp only [length]
  cases effect with
  | between outside => exact absurd inside outside
  | split _ above below split =>
      obtain ⟨frame, some, heavier⟩ := Weight.of_split split
      have more := heavier Weight.length
      have positive : 0 < Weight.length.weigh frame := List.length_pos_of_ne_nil some
      simp only [weigh_pageOf_append, weigh_pageOf_cons, weigh_pageOf_nil]
      omega
  | callout _ above below kind first keeps =>
      have more := weigh_callout_lt line kind first keeps
      simp only [weigh_pageOf_append, weigh_pageOf_cons, weigh_pageOf_nil]
      omega

end Effect

end Insertion

/-! ### Both insertions -/

/-- The charts of an insertion that may not take place. -/
def chartsOf (place : Option Insertion) : List Block :=
  place.toList.flatMap Insertion.charts

/-- An insertion takes place, or the text stays as it is. -/
inductive Step (text result : Text) : Option Insertion → Prop where
  | stays (same : result = text) : Step text result none
  | inserts {place : Insertion} {directive : Directive}
      (fits : place.Fits text result directive) : Step text result (some place)

namespace Step

variable {text result : Text} {place : Option Insertion}

theorem sections_eq (step : Step text result place) :
    (Body.ofText result).sections = (Body.ofText text).sections := by
  cases step with
  | stays same => rw [same]
  | inserts fits => exact fits.effect.sections_eq

theorem exists_of_not_severs (step : Step text result place)
    (outside : ∀ insertion ∈ place, ¬ insertion.Severs) :
    ∃ above below, (Body.ofText text).blocks = above ++ below ∧
      (Body.ofText result).blocks = above ++ chartsOf place ++ below := by
  cases step with
  | stays same => exact ⟨[], (Body.ofText text).blocks, by simp, by simp [same, chartsOf]⟩
  | inserts fits =>
      have charts := fits.charts_eq
      obtain ⟨above, below, before, after⟩ :=
        fits.effect.exists_of_not_severs (outside _ rfl)
      exact ⟨above, below, before, by simp [after, chartsOf, charts]⟩

theorem ampersands_le (step : Step text result place) :
    Weight.ampersands.weigh (page text) ≤ Weight.ampersands.weigh (page result) := by
  cases step with
  | stays same => rw [same]
  | inserts fits => exact fits.effect.ampersands_le fits.line

theorem length_le (step : Step text result place)
    (same : Weight.ampersands.weigh (page result) ≤ Weight.ampersands.weigh (page text)) :
    (page text).length + (pageOf (chartsOf place)).length ≤ (page result).length := by
  cases step with
  | stays same => simp [same, chartsOf, pageOf]
  | inserts fits =>
      simpa [chartsOf, fits.charts_eq, page_eq] using fits.effect.length_le fits.line same

theorem grows_of_severs (step : Step text result place) {insertion : Insertion}
    (takes : place = some insertion) (inside : insertion.Severs) :
    Weight.ampersands.weigh (page text) < Weight.ampersands.weigh (page result) ∨
      (page text).length + (pageOf (chartsOf place)).length < (page result).length := by
  cases step with
  | stays same => contradiction
  | inserts fits =>
      cases takes
      simpa [chartsOf, fits.charts_eq, page_eq] using fits.effect.grows_of_severs fits.line inside

theorem length_charts_le (step : Step text result place) : (chartsOf place).length ≤ 1 := by
  cases step with
  | stays same => simp [chartsOf]
  | inserts fits => simp [chartsOf, fits.charts_eq]

theorem ampersands_charts (place : Option Insertion) :
    Weight.ampersands.weigh (pageOf (chartsOf place)) = 0 := by
  cases place with
  | none => exact weigh_pageOf_nil _
  | some insertion =>
      cases read : Directive.ofLine? insertion.line with
      | none => simp [chartsOf, Insertion.charts, read, weigh_pageOf_nil]
      | some directive =>
          have charts : chartsOf (some insertion) = [.chart directive] := by
            simp [chartsOf, Insertion.charts, read]
          rw [charts, weigh_pageOf_cons, weigh_pageOf_nil, Block.pieces,
            Weight.ampersands_chart]

theorem addEnergyLabel (text : Text) :
    Step text (Injection.addEnergyLabel text) (Injection.energyInsertion? text) := by
  cases found : Injection.energyInsertion? text with
  | none => exact .stays (Injection.addEnergyLabel_of_none found)
  | some place =>
      obtain ⟨directive, fits⟩ := Injection.fits_of_energyInsertion found
      exact .inserts fits

theorem addLossChart (text : Text) :
    Step text (Injection.addLossChart text) (Injection.lossInsertion? text) := by
  cases found : Injection.lossInsertion? text with
  | none => exact .stays (Injection.addLossChart_of_none found)
  | some place =>
      obtain ⟨directive, fits⟩ := Injection.fits_of_lossInsertion found
      exact .inserts fits

end Step

def energyChart (text : Text) : List Block :=
  chartsOf (Injection.energyInsertion? text)

def lossChart (text : Text) : List Block :=
  chartsOf (Injection.lossInsertion? (Injection.addEnergyLabel text))

/-- Whether one of the directives is put into a callout, a list or a table. -/
def Severed (text : Text) : Prop :=
  (∃ place, Injection.energyInsertion? text = some place ∧ place.Severs) ∨
    ∃ place, Injection.lossInsertion? (Injection.addEnergyLabel text) = some place ∧ place.Severs

/-- Where nothing is severed the blocks of a report are what they were, with the charts
between them. -/
theorem adds_blocks_of_not_severed {text : Text} (whole : ¬ Severed text) :
    Adds (energyChart text) (lossChart text) (Body.ofText text).blocks
      (Body.ofText (injectCharts text)).blocks := by
  simp only [Severed, not_or, not_exists, not_and] at whole
  have first := Step.addEnergyLabel text
  have second := Step.addLossChart (Injection.addEnergyLabel text)
  obtain ⟨above, below, before, between⟩ := first.exists_of_not_severs whole.1
  obtain ⟨above', below', between', after⟩ := second.exists_of_not_severs whole.2
  rw [before, injectCharts, after]
  exact Adds.of_steps first.length_charts_le (between.symm.trans between')

/-- A page with the charts added has the ampersands that it had, and grows by no more than
the charts. -/
theorem weights_of_addsAtMost {text : Text}
    (adds : AddsAtMost (pageOf (energyChart text)) (pageOf (lossChart text)) (page text)
      (page (injectCharts text))) :
    Weight.ampersands.weigh (page (injectCharts text)) = Weight.ampersands.weigh (page text) ∧
      (page (injectCharts text)).length ≤
        (page text).length + (pageOf (energyChart text)).length +
          (pageOf (lossChart text)).length := by
  have energy := Step.ampersands_charts (Injection.energyInsertion? text)
  have loss :=
    Step.ampersands_charts (Injection.lossInsertion? (Injection.addEnergyLabel text))
  have empty := Weight.ampersands.weigh_nil
  obtain ⟨one, isFirst, other, isSecond, above, between, below, before, order⟩ := adds
  have none : ∀ part ∈ [[], pageOf (energyChart text)] ++ [[], pageOf (lossChart text)],
      Weight.ampersands.weigh part = 0 := by
    simp [energyChart, lossChart, energy, loss, empty]
  have short {part whole : Text} (member : part ∈ [[], whole]) : part.length ≤ whole.length := by
    simp only [List.mem_cons, List.not_mem_nil, or_false] at member
    rcases member with rfl | rfl <;> simp
  have oneNone := none one (List.mem_append_left _ isFirst)
  have otherNone := none other (List.mem_append_right _ isSecond)
  have oneShort := short isFirst
  have otherShort := short isSecond
  rcases order with after | after <;> rw [before, after] <;>
    simp only [Weight.append, List.length_append] <;> omega

/-- What is severed changes more of the page than two charts can. -/
theorem not_severed_of_addsAtMost {text : Text}
    (adds : AddsAtMost (pageOf (energyChart text)) (pageOf (lossChart text)) (page text)
      (page (injectCharts text))) : ¬ Severed text := by
  obtain ⟨sameAmpersands, atMost⟩ := weights_of_addsAtMost adds
  have first := Step.addEnergyLabel text
  have second := Step.addLossChart (Injection.addEnergyLabel text)
  rw [injectCharts] at sameAmpersands atMost
  have firstGains := first.ampersands_le
  have secondGains := second.ampersands_le
  have firstGrows := first.length_le (by omega)
  have secondGrows := second.length_le (by omega)
  simp only [energyChart, lossChart] at atMost
  rintro (⟨place, takes, severs⟩ | ⟨place, takes, severs⟩)
  · have more := first.grows_of_severs takes severs
    omega
  · have more := second.grows_of_severs takes severs
    omega

/-- The directives that are put into a report never change its sections. They add their charts
to its blocks and to its page, and nothing else, exactly where no callout, list or table is
severed; there both charts are added. -/
theorem injectCharts_adds_charts_iff (text : Text) :
    (Body.ofText (injectCharts text)).sections = (Body.ofText text).sections ∧
    (AddsAtMost (energyChart text) (lossChart text) (Body.ofText text).blocks
        (Body.ofText (injectCharts text)).blocks ↔ ¬ Severed text) ∧
    (AddsAtMost (pageOf (energyChart text)) (pageOf (lossChart text)) (page text)
        (page (injectCharts text)) ↔ ¬ Severed text) ∧
    (¬ Severed text → Adds (energyChart text) (lossChart text) (Body.ofText text).blocks
        (Body.ofText (injectCharts text)).blocks) := by
  refine ⟨?_, ⟨fun adds => ?_, fun whole => ?_⟩, ⟨not_severed_of_addsAtMost, fun whole => ?_⟩,
    adds_blocks_of_not_severed⟩
  · have first := (Step.addEnergyLabel text).sections_eq
    exact (Step.addLossChart (Injection.addEnergyLabel text)).sections_eq.trans first
  · exact not_severed_of_addsAtMost adds.pageOf
  · exact (adds_blocks_of_not_severed whole).atMost
  · exact (adds_blocks_of_not_severed whole).atMost.pageOf

end EnergyReport.Report
