import EnergyReport.Proofs.Html.Rendering
import EnergyReport.Proofs.Markup.Numbering
import EnergyReport.Proofs.Markup.State

namespace EnergyReport.Markup

open Grammar

/-! Reports that are put together with a blank line between them.

A blank line ends every list and every table, so that nothing of the first report goes on in the
second one but the count of the sections. -/

/-- A section that stands after `count` others. -/
def Section.after (count : Nat) (sec : Section) : Section :=
  ⟨min (count + sec.number) greatestNumber, sec.title⟩

/-- A block that stands after `count` sections. -/
def Block.after (count : Nat) : Block → Block
  | .banner sec => .banner (sec.after count)
  | block => block

/-- The body that a text describes where `count` sections precede it. -/
def Body.continuing (count : Nat) (text : Text) : Body :=
  ⟨(Reading.closed count).run (Text.lines text)⟩

/-- Whether the last callout of a text is closed, if it has any. -/
def endsOutside (text : Text) : Bool :=
  (Reading.start.readLines (Text.lines (dropByteOrderMark text))).1.callout.isNone

/-! ### Numbers -/

theorem Section.following_add (count before : Nat) (title : Text) :
    following (count + before) title = (following before title).after count := by
  simp only [following, Section.after, Section.mk.injEq, and_true]
  omega

theorem Grammar.runBlocks_add (count before : Nat) (run : List Element) :
    runBlocks (count + before) run = (runBlocks before run).map (Block.after count) := by
  unfold runBlocks
  split <;> simp [Block.after, Section.following_add]

theorem Grammar.blocksFrom_add (count before : Nat) (parts : List (List Element)) :
    blocksFrom (count + before) parts = (blocksFrom before parts).map (Block.after count) := by
  induction parts generalizing before with
  | nil => rfl
  | cons run rest ih =>
      rw [blocksFrom, blocksFrom, runBlocks_add, Nat.add_assoc, ih, List.map_append]

theorem Block.section?_after (count : Nat) (block : Block) :
    (block.after count).section? = block.section?.map (Section.after count) := by
  cases block <;> rfl

/-- As long as the numbers suffice, `count` is added to each of them. -/
theorem Body.sections_after {count : Nat} {text : Text}
    (suffice : count + (Body.ofText text).sections.length ≤ Section.greatestNumber) :
    ∀ sec ∈ (Body.ofText text).sections,
      sec.after count = ⟨count + sec.number, sec.title⟩ := by
  intro sec member
  have fits : 0 + (titles text).length ≤ Section.greatestNumber := by
    rw [← Body.length_sections]
    omega
  have consecutive := Section.map_number_numberedFrom fits
  rw [← Body.sections_ofText] at consecutive
  have among : sec.number ∈ List.range' (0 + 1) (titles text).length :=
    consecutive ▸ List.mem_map_of_mem member
  have bound := (List.mem_range'_1.mp among).2
  rw [← Body.length_sections] at bound
  have same : min (count + sec.number) Section.greatestNumber = count + sec.number :=
    Nat.min_eq_left (by omega)
  rw [Section.after, same]

/-! ### The second report -/

theorem dropByteOrderMark_of_unmarked {text : Text} (noMark : text.head? ≠ some '\uFEFF') :
    dropByteOrderMark text = text := by
  unfold dropByteOrderMark
  split
  · simp at noMark
  · rfl

/-- A text that nothing precedes. -/
theorem Body.continuing_zero {text : Text} (noMark : text.head? ≠ some '\uFEFF') :
    Body.continuing 0 text = Body.ofText text := by
  rw [Body.ofText, dropByteOrderMark_of_unmarked noMark]
  rfl

/-- What precedes a text changes the numbers of its sections and nothing else. -/
theorem Body.blocks_continuing (count : Nat) {text : Text}
    (noMark : text.head? ≠ some '\uFEFF') :
    (Body.continuing count text).blocks = (Body.ofText text).blocks.map (Block.after count) := by
  rw [Body.blocks_ofText, Grammar.blocks, dropByteOrderMark_of_unmarked noMark, Body.continuing,
    Reading.run_of_pending _ .nothing, List.nil_append, ← blocksFrom_add, Nat.add_zero]

theorem Body.sections_continuing (count : Nat) {text : Text}
    (noMark : text.head? ≠ some '\uFEFF') :
    (Body.continuing count text).sections =
      (Body.ofText text).sections.map (Section.after count) := by
  rw [Body.sections, Body.blocks_continuing count noMark, List.filterMap_map, Body.sections,
    List.map_filterMap]
  exact List.filterMap_congr fun block _ => block.section?_after count

/-! ### The blank line -/

/-- A blank line outside of callouts does what the end of the text does. -/
theorem Reading.Consistent.feed_blank {count : Nat} {state : Reading}
    (consistent : Consistent count state) (outside : state.callout = none) :
    state.feed [] = (closed count, state.finish) := by
  have blank : Line.classify (Text.trim []) = .blank := by decide
  -- a blank line closes the table first and the end of the text the list, but one of them is empty
  have order : state.tableBlocks ++ state.listBlocks = state.finish := by
    have noCallout : state.calloutBlocks = [] := by simp [calloutBlocks, outside]
    rw [finish, noCallout, List.append_nil]
    rcases consistent.listOrTable with noList | noTable
    · simp [listBlocks, noList]
    · simp [tableBlocks, noTable]
  rw [feed_of_outside outside, blank, Reading.feedLine, order]
  simp [closed, closeTable, closeList, outside, consistent.counted]

theorem dropByteOrderMark_append_newline (first rest : Text) :
    dropByteOrderMark (first ++ '\n' :: rest) = dropByteOrderMark first ++ '\n' :: rest := by
  cases first with
  | nil => rfl
  | cons c more => exact dropByteOrderMark_append (List.cons_ne_nil c more) _

/-- The blocks of two texts with a blank line between them. -/
theorem Body.blocks_append {first : Text} (outside : endsOutside first) (second : Text) :
    (Body.ofText (first ++ '\n' :: '\n' :: second)).blocks =
      (Body.ofText first).blocks ++
        (Body.continuing (Body.ofText first).sections.length second).blocks := by
  obtain ⟨lines, isLines⟩ : ∃ lines, lines = Text.lines (dropByteOrderMark first) := ⟨_, rfl⟩
  have whole : Text.lines (dropByteOrderMark (first ++ '\n' :: '\n' :: second)) =
      lines ++ [] :: Text.lines second := by
    have blank : Text.lines ('\n' :: second) = [] :: Text.lines second :=
      Text.lines_append_newline [] second
    rw [dropByteOrderMark_append_newline, Text.lines_append_newline, blank, isLines]
  have noCallout : (Reading.start.readLines lines).1.callout = none := by
    simpa [endsOutside, isLines] using outside
  have alone := Reading.start.run_eq_readLines lines
  have count : (Body.ofText first).sections.length =
      Reading.sectionsIn (Reading.start.readLines lines).2 := by
    have counted : (Body.ofText first).sections.length =
        Reading.sectionsIn (Reading.start.run lines) := by
      rw [isLines]
      rfl
    rw [counted, alone, Reading.sectionsIn_append, Reading.sectionsIn_finish, Nat.add_zero]
  have consistent := Reading.consistent_start.readLines lines
  rw [Nat.zero_add, ← count] at consistent
  calc (Body.ofText (first ++ '\n' :: '\n' :: second)).blocks
      = Reading.start.run (lines ++ [] :: Text.lines second) := by rw [Body.ofText, whole]
    _ = (Reading.start.readLines lines).2 ++
          (Reading.start.readLines lines).1.run ([] :: Text.lines second) :=
        Reading.start.run_append lines _
    _ = Reading.start.run lines ++
          (Body.continuing (Body.ofText first).sections.length second).blocks := by
        rw [Reading.run, consistent.feed_blank noCallout, alone, List.append_assoc]
        rfl
    _ = (Body.ofText first).blocks ++
          (Body.continuing (Body.ofText first).sections.length second).blocks := by
        rw [isLines]
        rfl

/-- Two reports with a blank line between them are rendered one after the other. The sections of
the second one go on counting where those of the first one end, and nothing else of the first
one matters to the second one. -/
theorem render_append_blankLine (first second : Text) (outside : endsOutside first)
    (noMark : second.head? ≠ some '\uFEFF') :
    let count := (Body.ofText first).sections.length
    let both := Body.ofText (first ++ '\n' :: '\n' :: second)
    Html.render both.pieces = Html.render (Body.ofText first).pieces ++
        Html.render (Body.continuing count second).pieces ∧
      both.sections = (Body.ofText first).sections ++
        (Body.ofText second).sections.map (Section.after count) ∧
      (count + (Body.ofText second).sections.length ≤ Section.greatestNumber →
        ∀ sec ∈ (Body.ofText second).sections,
          sec.after count = ⟨count + sec.number, sec.title⟩) ∧
      (Body.continuing count second).blocks =
        (Body.ofText second).blocks.map (Block.after count) ∧
      (count = 0 → Html.render both.pieces = Html.render (Body.ofText first).pieces ++
        Html.render (Body.ofText second).pieces) := by
  intro count both
  have blocks : both.blocks = (Body.ofText first).blocks ++ (Body.continuing count second).blocks :=
    Body.blocks_append outside second
  have html : Html.render both.pieces = Html.render (Body.ofText first).pieces ++
      Html.render (Body.continuing count second).pieces := by
    rw [Body.pieces, blocks, List.flatMap_append, Html.render_append]
    rfl
  refine ⟨html, ?_, Body.sections_after, Body.blocks_continuing count noMark, fun isFirst => ?_⟩
  · rw [← Body.sections_continuing count noMark, Body.sections, blocks, List.filterMap_append]
    rfl
  · rw [html, isFirst, Body.continuing_zero noMark]

theorem render_append_blankLine_openList :
    let first := "# Un\n- a\n- b".toList
    let second := "- c\n# Deux\n:::info\n# Trois".toList
    endsOutside first = true ∧ second.head? ≠ some '\uFEFF' ∧
      Html.render (Body.ofText (first ++ '\n' :: '\n' :: second)).pieces =
        Html.render (Body.ofText first).pieces ++
          Html.render (Body.continuing (Body.ofText first).sections.length second).pieces ∧
      (Body.ofText (first ++ '\n' :: '\n' :: second)).sections =
        [⟨1, "Un".toList⟩, ⟨2, "Deux".toList⟩] := by
  have outside : endsOutside "# Un\n- a\n- b".toList = true := by decide
  have noMark : "- c\n# Deux\n:::info\n# Trois".toList.head? ≠ some '\uFEFF' := by decide
  obtain ⟨html, sections, -⟩ := render_append_blankLine _ _ outside noMark
  exact ⟨outside, noMark, html, sections.trans (by decide)⟩

end EnergyReport.Markup
