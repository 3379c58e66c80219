import EnergyReport.Proofs.Markup.Reading

namespace EnergyReport.Markup

/-! What happens to the blocks of a report when a directive is put between two of its lines.

Between two blocks it adds its chart and changes nothing else. Within a run of list items or
table rows it splits the block of the run, and within a callout it becomes one of the lines of
the callout. -/

namespace Grammar

/-- Whether a callout is open after some lines. -/
def calloutOpen : Bool → List Text → Bool
  | inside, [] => inside
  | false, raw :: rest =>
      calloutOpen (((markerName? raw).bind calloutKind?).isSome) rest
  | true, raw :: rest => calloutOpen (!isMarker raw) rest

/-- Whether a line between these lines stands in a callout, a list or a table. -/
def Severs (before after : List Text) : Prop :=
  calloutOpen false before = true ∨
    ∃ last ∈ (elements before).getLast?, ∃ next ∈ (elements after).head?,
      Element.joins last next = true

/-- The lines of an open callout either all belong to it, or it is closed among them. -/
theorem calloutOpen_true (lines : List Text) :
    (calloutOpen true lines = true ∧ ∀ after,
      calloutLines (lines ++ after) = lines ++ calloutLines after ∧
      afterCallout (lines ++ after) = afterCallout after) ∨
    (calloutOpen true lines = calloutOpen false (afterCallout lines) ∧ ∀ after,
      calloutLines (lines ++ after) = calloutLines lines ∧
      afterCallout (lines ++ after) = afterCallout lines ++ after) := by
  induction lines with
  | nil => exact .inl ⟨rfl, fun after => ⟨rfl, rfl⟩⟩
  | cons raw rest ih =>
      cases marker : isMarker raw with
      | true =>
          refine .inr ⟨?_, fun after => ?_⟩
          · simp [calloutOpen, afterCallout, marker]
          · simp [calloutLines, afterCallout, marker]
      | false =>
          have goesOn : calloutOpen true (raw :: rest) = calloutOpen true rest := by
            simp [calloutOpen, marker]
          rw [goesOn]
          rcases ih with ⟨stays, parts⟩ | ⟨ends, parts⟩
          · refine .inl ⟨stays, fun after => ?_⟩
            have within := parts after
            simp only [calloutLines, afterCallout] at within
            simp [calloutLines, afterCallout, marker, within]
          · refine .inr ⟨?_, fun after => ?_⟩
            · simp [ends, afterCallout, marker]
            · have within := parts after
              simp only [calloutLines, afterCallout] at within
              simp [calloutLines, afterCallout, marker, within]

/-- Lines that leave no callout open have their own elements; after others the callout that
is open takes in what follows up to a marker. -/
theorem elements_append (before : List Text) :
    (calloutOpen false before = false ∧
      ∀ after, elements (before ++ after) = elements before ++ elements after) ∨
    (calloutOpen false before = true ∧ ∃ parts kind lines, ∀ after,
      elements (before ++ after) =
        parts ++ .callout kind (lines ++ calloutLines after) :: elements (afterCallout after)) := by
  induction before using elements.induct with
  | case1 => exact .inl ⟨rfl, fun after => by simp [elements]⟩
  | case2 raw rest named ih =>
      have goesOn : calloutOpen false (raw :: rest) = calloutOpen false rest := by
        simp [calloutOpen, named]
      rw [goesOn]
      rcases ih with ⟨closed, parts⟩ | ⟨stays, parts, kind, lines, whole⟩
      · exact .inl ⟨closed, fun after => by simp [elements, named, parts]⟩
      · refine .inr ⟨stays, .line (Line.classify (Text.trim raw)) (Text.trim raw) :: parts, kind,
          lines, fun after => ?_⟩
        simp [elements, named, whole]
  | case3 raw rest name named unknown ih =>
      have goesOn : calloutOpen false (raw :: rest) = calloutOpen false rest := by
        simp [calloutOpen, named, unknown]
      rw [goesOn]
      rcases ih with ⟨closed, parts⟩ | ⟨stays, whole⟩
      · exact .inl ⟨closed, fun after => by simp [elements, named, unknown, parts]⟩
      · exact .inr ⟨stays, by simpa [elements, named, unknown] using whole⟩
  | case4 raw rest name named kind known ih =>
      have opens : calloutOpen false (raw :: rest) = calloutOpen true rest := by
        simp [calloutOpen, named, known]
      rw [opens]
      rcases calloutOpen_true rest with ⟨stays, within⟩ | ⟨ends, within⟩
      · refine .inr ⟨stays, [], kind, rest, fun after => ?_⟩
        simp [elements, named, known, within after]
      · rw [ends]
        rcases ih with ⟨closed, parts⟩ | ⟨stays, parts, other, lines, whole⟩
        · refine .inl ⟨closed, fun after => ?_⟩
          simp [elements, named, known, within after, parts]
        · refine .inr ⟨stays, .callout kind (calloutLines rest) :: parts, other, lines,
            fun after => ?_⟩
          simp [elements, named, known, within after, whole]

theorem elements_append_of_closed {before : List Text} (closed : calloutOpen false before = false)
    (after : List Text) : elements (before ++ after) = elements before ++ elements after := by
  rcases elements_append before with ⟨_, parts⟩ | ⟨contra, _⟩
  · exact parts after
  · rw [closed] at contra
    contradiction

theorem elements_append_of_open {before : List Text} (inside : calloutOpen false before = true) :
    ∃ parts kind lines, ∀ after, elements (before ++ after) =
      parts ++ .callout kind (lines ++ calloutLines after) :: elements (afterCallout after) := by
  rcases elements_append before with ⟨contra, _⟩ | ⟨_, whole⟩
  · rw [inside] at contra
    contradiction
  · exact whole

end Grammar

theorem Element.joins_iff {first second : Element} :
    joins first second = true ↔
      (∃ kind content text content' text',
        first = .line (.item kind content) text ∧ second = .line (.item kind content') text') ∨
      ∃ text text', first = .line .tableRow text ∧ second = .line .tableRow text' := by
  constructor
  · intro joined
    unfold joins at joined
    split at joined
    · rename_i kind content text other content' text'
      have same : kind = other := by simpa using joined
      exact .inl ⟨kind, content, text, content', text', rfl, same ▸ rfl⟩
    · rename_i text text'
      exact .inr ⟨text, text', rfl, rfl⟩
    · contradiction
  · rintro (⟨kind, content, text, content', text', rfl, rfl⟩ | ⟨text, text', rfl, rfl⟩)
    · simp [joins]
    · rfl

theorem Element.joins_trans {first second third : Element} (left : joins first second = true)
    (right : joins second third = true) : joins first third = true := by
  rw [joins_iff] at left right ⊢
  rcases left with ⟨kind, content, text, _, _, rfl, rfl⟩ | ⟨text, _, rfl, rfl⟩
  · rcases right with ⟨_, _, _, content', text', same, rfl⟩ | ⟨_, _, contra, _⟩
    · simp only [Element.line.injEq, Line.item.injEq] at same
      exact .inl ⟨kind, content, text, content', text', rfl, same.1.1 ▸ rfl⟩
    · simp at contra
  · rcases right with ⟨_, _, _, _, _, contra, _⟩ | ⟨_, text', _, rfl⟩
    · simp at contra
    · exact .inr ⟨text, text', rfl, rfl⟩

theorem Element.pairwise_of_isChain {parts : List Element}
    (chain : parts.IsChain fun first second => joins first second) :
    parts.Pairwise fun first second => joins first second := by
  have : IsTrans Element fun first second => joins first second = true :=
    ⟨fun _ _ _ => joins_trans⟩
  exact List.isChain_iff_pairwise.mp chain

/-- A list or a table, and the two blocks that take its place when a directive stands between
its items or rows. -/
inductive Block.Split : Block → Block → Block → Prop where
  | list (kind : ListKind) (first second : List Text) :
      Split (.list kind (first ++ second)) (.list kind first) (.list kind second)
  | table (first second : List Text) (rowsBefore : first ≠ []) (rowsAfter : second ≠ []) :
      Split (.table (first ++ second)) (.table first) (.table second)

namespace Grammar

theorem exists_last_run (parts : List Element) (nonempty : parts ≠ []) :
    ∃ before run, parts = before ++ run ∧ run ≠ [] ∧
      (run.IsChain fun first second => Element.joins first second) ∧
      ∀ last ∈ before.getLast?, ∀ next ∈ run.head?, Element.joins last next = false := by
  induction parts using List.reverseRecOn with
  | nil => contradiction
  | append_singleton parts next ih =>
      cases parts with
      | nil => exact ⟨[], [next], rfl, by simp, List.isChain_singleton _, by simp⟩
      | cons head tail =>
          obtain ⟨before, run, whole, some, chain, apart⟩ := ih (by simp)
          cases joined : Element.joins (run.getLast some) next with
          | true =>
              refine ⟨before, run ++ [next], by simp [whole], by simp, ?_, ?_⟩
              · rw [List.isChain_append]
                refine ⟨chain, List.isChain_singleton _, fun last member other final => ?_⟩
                simp only [List.getLast?_eq_some_getLast some, Option.mem_def, Option.some.injEq]
                  at member
                simp only [List.head?_cons, Option.mem_def, Option.some.injEq] at final
                rw [← member, ← final]
                exact joined
              · rwa [List.head?_append_of_ne_nil _ some]
          | false =>
              refine ⟨head :: tail, [next], rfl, by simp, List.isChain_singleton _, ?_⟩
              intro last member other final
              rw [whole, List.getLast?_append_of_ne_nil _ some,
                List.getLast?_eq_some_getLast some] at member
              simp only [Option.mem_def, Option.some.injEq] at member
              simp only [List.head?_cons, Option.mem_def, Option.some.injEq] at final
              rw [← member, ← final]
              exact joined

theorem exists_first_run (parts : List Element) (nonempty : parts ≠ []) :
    ∃ run after, parts = run ++ after ∧ run ≠ [] ∧
      (run.IsChain fun first second => Element.joins first second) ∧
      ∀ last ∈ run.getLast?, ∀ next ∈ after.head?, Element.joins last next = false := by
  induction parts with
  | nil => contradiction
  | cons first rest ih =>
      cases rest with
      | nil => exact ⟨[first], [], rfl, by simp, List.isChain_singleton _, by simp⟩
      | cons second more =>
          obtain ⟨run, after, whole, some, chain, apart⟩ := ih (by simp)
          obtain ⟨head, tail, rfl⟩ := List.exists_cons_of_ne_nil some
          simp only [List.cons_append, List.cons.injEq] at whole
          cases joined : Element.joins first second with
          | true =>
              refine ⟨first :: head :: tail, after, by simp [whole.1, whole.2], by simp, ?_, ?_⟩
              · rw [List.isChain_cons_cons]
                exact ⟨whole.1 ▸ joined, chain⟩
              · simpa using apart
          | false =>
              refine ⟨[first], second :: more, rfl, by simp, List.isChain_singleton _, ?_⟩
              simpa using joined

/-- Where a run is split, so is its block. -/
theorem exists_split {first second : List Element} (before : first ≠ []) (after : second ≠ [])
    (chain : (first ++ second).IsChain fun left right => Element.joins left right) :
    ∃ whole left right, Block.Split whole left right ∧ ∀ count,
      runBlocks count (first ++ second) = [whole] ∧ runBlocks count first = [left] ∧
        runBlocks count second = [right] := by
  obtain ⟨head, tail, rfl⟩ := List.exists_cons_of_ne_nil before
  obtain ⟨next, more, rfl⟩ := List.exists_cons_of_ne_nil after
  have joined : Element.joins head next = true := by
    have pairs := Element.pairwise_of_isChain chain
    simp only [List.cons_append, List.pairwise_cons] at pairs
    exact pairs.1 next (by simp)
  rcases Element.joins_iff.mp joined with ⟨kind, content, text, content', text', rfl, rfl⟩ |
    ⟨text, text', rfl, rfl⟩
  · refine ⟨_, _, _, .list kind _ _, fun count => ⟨?_, rfl, rfl⟩⟩
    rw [← List.filterMap_append]
    rfl
  · refine ⟨_, _, _, .table _ _ ?_ ?_, fun count => ⟨?_, rfl, rfl⟩⟩
    · simp [Element.row?]
    · simp [Element.row?]
    · rw [← List.filterMap_append]
      rfl

def blocksOfLines (lines : List Text) : List Block :=
  blocksFrom 0 (runs (elements lines))

/-- Lines that an insertion leaves as they are, but for a blank line after the last one. -/
def Resumes (after resumed : List Text) : Prop :=
  resumed = after ∨ after = [] ∧ resumed = [[]]

theorem Resumes.blocksFrom_eq {after resumed : List Text} (resumes : Resumes after resumed)
    (count : Nat) :
    blocksFrom count (runs (elements resumed)) = blocksFrom count (runs (elements after)) := by
  rcases resumes with rfl | ⟨rfl, rfl⟩
  · rfl
  · have blank : elements [[]] = [.line .blank []] := by
      simp [elements, markerName?, Text.strip?, Text.trim, Text.trimEnd, Text.trimStart,
        Line.classify, Line.candidates, Line.heading?, Directive.ofLine?, Directive.commentStart,
        Line.isTableRow, Line.bullet?, Line.ordered?]
    simp [blank, elements, runs, blocksFrom, runBlocks, List.splitBy_of_isChain]

section Placement

variable {line : Text} {directive : Directive} {before after resumed : List Text}

theorem elements_directive (unnamed : markerName? line = none)
    (classified : Line.classify (Text.trim line) = .chart directive) (rest : List Text) :
    elements (line :: rest) =
      .line (.chart directive) (Text.trim line) :: elements rest := by
  simp [elements, unnamed, classified]

/-- Around a directive both sides keep the blocks that they have in themselves. -/
theorem blocksOfLines_directive (unnamed : markerName? line = none)
    (classified : Line.classify (Text.trim line) = .chart directive)
    (closed : calloutOpen false before = false) (resumes : Resumes after resumed) :
    blocksOfLines (before ++ line :: resumed) =
      blocksFrom 0 (runs (elements before)) ++ .chart directive ::
        blocksFrom ((elements before).countP Element.isTitle) (runs (elements after)) := by
  have parts := elements_append_of_closed closed
  have apartBefore (last : Element) :
      Element.joins last (.line (.chart directive) (Text.trim line)) = false := by
    rw [Bool.eq_false_iff, ne_eq, Element.joins_iff]
    simp
  have apartAfter : ∀ next,
      Element.joins (.line (.chart directive) (Text.trim line)) next = false :=
    Element.joins_line_eq_false (by simp) (by simp)
  rw [blocksOfLines, parts, elements_directive unnamed classified,
    blocksFrom_runs_alone 0 _ _ apartBefore apartAfter, resumes.blocksFrom_eq]
  simp [runBlocks, Element.isTitle]

/-- Outside of callouts, lists and tables a directive adds its chart and nothing else. -/
theorem blocksOfLines_of_not_severs (unnamed : markerName? line = none)
    (classified : Line.classify (Text.trim line) = .chart directive)
    (resumes : Resumes after resumed) (outside : ¬ Severs before after) :
    ∃ above below, blocksOfLines (before ++ after) = above ++ below ∧
      blocksOfLines (before ++ line :: resumed) = above ++ .chart directive :: below := by
  simp only [Severs, not_or, not_exists, not_and, Bool.not_eq_true] at outside
  obtain ⟨closed, apart⟩ := outside
  refine ⟨_, _, ?_, blocksOfLines_directive unnamed classified closed resumes⟩
  rw [blocksOfLines, elements_append_of_closed closed, blocksFrom_runs_append 0 apart,
    Nat.zero_add]

/-- Two parts whose elements join share a block, which splits where each has its own. -/
theorem blocksFrom_of_joins {first second : List Element}
    (within : ∃ last ∈ first.getLast?, ∃ next ∈ second.head?, Element.joins last next = true) :
    ∃ above whole left right below, Block.Split whole left right ∧
      blocksFrom 0 (runs (first ++ second)) = above ++ whole :: below ∧
      blocksFrom 0 (runs first) = above ++ [left] ∧
      blocksFrom (first.countP Element.isTitle) (runs second) = right :: below := by
  obtain ⟨last, ends, next, begins, joined⟩ := within
  have someFirst : first ≠ [] := by
    rintro rfl
    contradiction
  have someSecond : second ≠ [] := by
    rintro rfl
    contradiction
  obtain ⟨outer, run, rfl, someBefore, chainBefore, apartBefore⟩ := exists_last_run _ someFirst
  obtain ⟨run', outer', rfl, someAfter, chainAfter, apartAfter⟩ := exists_first_run _ someSecond
  rw [List.getLast?_append_of_ne_nil _ someBefore] at ends
  rw [List.head?_append_of_ne_nil _ someAfter] at begins
  have chain : (run ++ run').IsChain fun left right => Element.joins left right := by
    rw [List.isChain_append]
    refine ⟨chainBefore, chainAfter, fun final final' first first' => ?_⟩
    rw [Option.mem_unique final' ends, Option.mem_unique first' begins]
    exact joined
  obtain ⟨whole, left, right, split, blocks⟩ := exists_split someBefore someAfter chain
  have apartWhole : ∀ last ∈ (run ++ run').getLast?, ∀ next ∈ outer'.head?,
      Element.joins last next = false := by
    rwa [List.getLast?_append_of_ne_nil _ someAfter]
  have apartOuter : ∀ last ∈ outer.getLast?, ∀ next ∈ (run ++ run' ++ outer').head?,
      Element.joins last next = false := by
    rwa [List.append_assoc, List.head?_append_of_ne_nil _ someBefore]
  refine ⟨blocksFrom 0 (runs outer), whole, left, right,
    blocksFrom ((outer ++ run ++ run').countP Element.isTitle) (runs outer'), split, ?_, ?_, ?_⟩
  · rw [List.append_assoc, ← List.append_assoc run, blocksFrom_runs_append 0 apartOuter,
      blocksFrom_runs_append _ apartWhole,
      blocksFrom_runs_of_isChain _ (by simp [someBefore]) chain, (blocks _).1]
    simp [List.countP_append]
  · rw [blocksFrom_runs_append 0 apartBefore, blocksFrom_runs_of_isChain _ someBefore chainBefore,
      (blocks _).2.1]
  · rw [blocksFrom_runs_append _ apartAfter, blocksFrom_runs_of_isChain _ someAfter chainAfter,
      (blocks _).2.2]
    simp [List.countP_append, Nat.add_assoc]

/-- Between two items or rows a directive splits the block that they belong to. -/
theorem blocksOfLines_of_joins (unnamed : markerName? line = none)
    (classified : Line.classify (Text.trim line) = .chart directive)
    (resumes : Resumes after resumed) (closed : calloutOpen false before = false)
    (within : ∃ last ∈ (elements before).getLast?, ∃ next ∈ (elements after).head?,
      Element.joins last next = true) :
    ∃ above whole left right below, Block.Split whole left right ∧
      blocksOfLines (before ++ after) = above ++ whole :: below ∧
      blocksOfLines (before ++ line :: resumed) =
        above ++ left :: .chart directive :: right :: below := by
  obtain ⟨above, whole, left, right, below, split, together, first, second⟩ :=
    blocksFrom_of_joins within
  refine ⟨above, whole, left, right, below, split, ?_, ?_⟩
  · rw [blocksOfLines, elements_append_of_closed closed, together]
  · rw [blocksOfLines_directive unnamed classified closed resumes, first, second]
    simp

/-- In a callout a directive is one more line of the callout. -/
theorem blocksOfLines_of_calloutOpen (unnamed : markerName? line = none)
    (resumes : Resumes after resumed) (inside : calloutOpen false before = true) :
    ∃ above kind first rest rest' below, Resumes rest rest' ∧
      blocksOfLines (before ++ after) = above ++ .callout kind (first ++ rest) :: below ∧
      blocksOfLines (before ++ line :: resumed) =
        above ++ .callout kind (first ++ line :: rest') :: below := by
  obtain ⟨parts, kind, lines, whole⟩ := elements_append_of_open inside
  have blocks (content : List Text) (rest : List Element) :
      blocksFrom 0 (runs (parts ++ .callout kind content :: rest)) =
        blocksFrom 0 (runs parts) ++ .callout kind content ::
          blocksFrom (parts.countP Element.isTitle) (runs rest) := by
    rw [blocksFrom_runs_alone 0 _ _ (fun last => by cases last <;> simp [Element.joins])
      fun next => rfl]
    simp [runBlocks, Element.isTitle]
  have ordinary : isMarker line = false := by simp [isMarker, unnamed]
  have lineFirst : calloutLines (line :: resumed) = line :: calloutLines resumed := by
    simp [calloutLines, ordinary]
  have closes : afterCallout (line :: resumed) = afterCallout after := by
    have resumed : afterCallout resumed = afterCallout after := by
      rcases resumes with rfl | ⟨rfl, rfl⟩
      · rfl
      · rfl
    simpa [afterCallout, ordinary] using resumed
  have keeps : Resumes (calloutLines after) (calloutLines resumed) := by
    rcases resumes with rfl | ⟨rfl, rfl⟩
    · exact .inl rfl
    · exact .inr ⟨rfl, rfl⟩
  refine ⟨blocksFrom 0 (runs parts), kind, lines, calloutLines after, calloutLines resumed,
    blocksFrom (parts.countP Element.isTitle) (runs (elements (afterCallout after))), keeps,
    ?_, ?_⟩
  · rw [blocksOfLines, whole, blocks]
  · rw [blocksOfLines, whole, blocks, lineFirst, closes]

end Placement

end Grammar

end EnergyReport.Markup
