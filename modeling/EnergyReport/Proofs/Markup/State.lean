import EnergyReport.Proofs.Markup.Reading

namespace EnergyReport.Markup

/-! What holds of the state of a reading between any two lines. -/

namespace Reading

/-- The state after some lines, and the blocks that they have yielded. -/
def readLines : Reading → List Text → Reading × List Block
  | state, [] => (state, [])
  | state, raw :: rest =>
      let (next, blocks) := state.feed raw
      let (last, others) := readLines next rest
      (last, blocks ++ others)

theorem run_append (state : Reading) (first second : List Text) :
    state.run (first ++ second) =
      (state.readLines first).2 ++ (state.readLines first).1.run second := by
  induction first generalizing state with
  | nil => rfl
  | cons raw rest ih => simp [run, readLines, ih]

theorem run_eq_readLines (state : Reading) (lines : List Text) :
    state.run lines = (state.readLines lines).2 ++ (state.readLines lines).1.finish := by
  simpa [run] using state.run_append lines []

/-- After `count` sections a state has at most one of a list, a table and a callout open, and its
section count is the number of sections, as far as it goes. -/
structure Consistent (count : Nat) (state : Reading) : Prop where
  listOrTable : state.list = none ∨ state.table = []
  calloutAlone : state.callout ≠ none → state.list = none ∧ state.table = []
  counted : state.sectionCount = min count Section.greatestNumber

theorem feed_of_outside {state : Reading} (outside : state.callout = none) (raw : Text) :
    state.feed raw = state.feedLine (Text.trim raw) (Line.classify (Text.trim raw)) := by
  simp only [feed, outside]
  split
  · rename_i name classified
    rw [classified, feedLine]
  · rfl

/-- A marker closes an open callout, and any other line belongs to it. -/
theorem feed_of_callout {state : Reading} {current : OpenCallout}
    (isOpen : state.callout = some current) (raw : Text) :
    state.feed raw = ({ state with callout := none }, state.calloutBlocks) ∨
      state.feed raw =
        ({ state with callout := some ⟨current.kind, current.lines ++ [raw]⟩ }, []) := by
  simp only [feed, isOpen]
  split
  · exact .inl (by simp [feedMarker, isOpen])
  · exact .inr rfl

/-- How many banners are among some blocks. -/
def sectionsIn (blocks : List Block) : Nat :=
  (blocks.filterMap Block.section?).length

theorem sectionsIn_append (first second : List Block) :
    sectionsIn (first ++ second) = sectionsIn first + sectionsIn second := by
  simp [sectionsIn]

theorem sectionsIn_singleton (block : Block) :
    sectionsIn [block] = block.section?.toList.length := by
  cases found : block.section? <;> simp [sectionsIn, found]

/-- What is open between two lines holds no banner. -/
theorem sectionsIn_open (state : Reading) :
    sectionsIn state.listBlocks = 0 ∧ sectionsIn state.tableBlocks = 0 ∧
      sectionsIn state.calloutBlocks = 0 := by
  refine ⟨?_, ?_, ?_⟩
  · unfold listBlocks
    split <;> rfl
  · unfold tableBlocks
    split <;> rfl
  · unfold calloutBlocks
    split <;> rfl

/-- The lines up to the next one that is read as the title of a section. -/
def sectionLines : Reading → List Text → List Text
  | _, [] => []
  | state, raw :: rest =>
      let (next, blocks) := state.feed raw
      if sectionsIn blocks = 0 then raw :: next.sectionLines rest else []

theorem sectionLines_initial (state : Reading) (lines : List Text) :
    state.sectionLines lines <+: lines := by
  induction lines generalizing state with
  | nil => exact List.prefix_refl _
  | cons raw rest induction =>
      simp only [sectionLines]
      split
      · exact List.cons_prefix_cons.mpr ⟨rfl, induction _⟩
      · exact List.nil_prefix

theorem sectionsIn_finish (state : Reading) : sectionsIn state.finish = 0 := by
  simp [finish, sectionsIn_append, sectionsIn_open]

theorem consistent_start : Consistent 0 start := by
  constructor <;> simp [start]

namespace Consistent

variable {count : Nat} {state : Reading}

theorem feedMarker (consistent : Consistent count state) (name : Text) :
    Consistent (count + sectionsIn (state.feedMarker name).2) (state.feedMarker name).1 := by
  obtain ⟨listOrTable, calloutAlone, counted⟩ := consistent
  unfold Reading.feedMarker
  split
  · exact ⟨listOrTable, by simp, by simpa [sectionsIn_open] using counted⟩
  · split
    · refine ⟨.inl rfl, fun _ => ⟨rfl, rfl⟩, ?_⟩
      simpa [closeList, closeTable, sectionsIn_append, sectionsIn_open] using counted
    · exact ⟨listOrTable, calloutAlone, counted⟩

theorem feedLine (consistent : Consistent count state) (outside : state.callout = none)
    (line : Text) (kind : Line) :
    Consistent (count + sectionsIn (state.feedLine line kind).2) (state.feedLine line kind).1 := by
  have counted := consistent.counted
  cases kind with
  | marker name => exact consistent.feedMarker name
  | title title =>
      refine ⟨.inl rfl, fun isOpen => absurd outside isOpen, ?_⟩
      simp only [Reading.feedLine, Section.following, sectionsIn_append, sectionsIn_open,
        sectionsIn_singleton, Block.section?, counted, Option.toList_some, List.length_singleton]
      omega
  | item kind content =>
      have noTable : state.closeTable.callout = none := outside
      have yields : sectionsIn (state.feedLine line (.item kind content)).2 = 0 := by
        simp only [Reading.feedLine, sectionsIn_append, sectionsIn_open, Nat.zero_add]
        unfold feedItem
        split
        · split
          · rfl
          · exact (sectionsIn_open _).1
        · rfl
      rw [yields, Nat.add_zero]
      simp only [Reading.feedLine, feedItem]
      split
      · split <;> exact ⟨.inr rfl, fun isOpen => absurd outside isOpen, counted⟩
      · exact ⟨.inr rfl, fun isOpen => absurd outside isOpen, counted⟩
  | tableRow =>
      refine ⟨.inl rfl, fun isOpen => absurd outside isOpen, ?_⟩
      simpa [Reading.feedLine, closeList, sectionsIn_open] using counted
  | chart directive | heading level title | blank | paragraph =>
      refine ⟨.inl rfl, fun isOpen => absurd outside isOpen, ?_⟩
      simpa [Reading.feedLine, closeList, closeTable, sectionsIn_append, sectionsIn_open,
        sectionsIn_singleton, Block.section?] using counted

/-- Every line keeps the state consistent. -/
theorem feed (consistent : Consistent count state) (raw : Text) :
    Consistent (count + sectionsIn (state.feed raw).2) (state.feed raw).1 := by
  cases callout : state.callout with
  | none =>
      rw [feed_of_outside callout]
      exact consistent.feedLine callout _ _
  | some current =>
      obtain ⟨listOrTable, calloutAlone, counted⟩ := consistent
      rcases feed_of_callout callout raw with fed | fed <;> rw [fed]
      · exact ⟨listOrTable, by simp, by simpa [sectionsIn_open] using counted⟩
      · exact ⟨listOrTable, fun _ => calloutAlone (by simp [callout]), counted⟩

/-- So do any number of lines. -/
theorem readLines (consistent : Consistent count state) (lines : List Text) :
    Consistent (count + sectionsIn (state.readLines lines).2) (state.readLines lines).1 := by
  induction lines generalizing count state with
  | nil => exact consistent
  | cons raw rest ih =>
      have following := ih (consistent.feed raw)
      rw [Nat.add_assoc, ← sectionsIn_append] at following
      exact following

end Consistent

end Reading

end EnergyReport.Markup
