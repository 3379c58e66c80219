import EnergyReport.Proofs.Markup.Grammar

namespace EnergyReport.Markup

open Grammar

/-! Reading line by line yields the blocks of the grammar.

`Pending` is the invariant: what is open between two lines outside of callouts is one run
of elements that may still go on. -/

theorem Line.mem_candidates {line : Text} (special : Line.classify line ≠ .paragraph) :
    some (Line.classify line) ∈ Line.candidates line := by
  cases found : (Line.candidates line).findSome? id with
  | none => simp [Line.classify, found] at special
  | some kind =>
      obtain ⟨candidate, member, same⟩ := List.exists_of_findSome?_eq_some found
      simp only [Line.classify, found, Option.getD_some]
      exact same ▸ member

theorem Line.classify_of_markerName {raw name : Text}
    (named : markerName? raw = some name) :
    Line.classify (Text.trim raw) = .marker name := by
  simp only [markerName?, Option.map_eq_some_iff] at named
  obtain ⟨rest, stripped, rfl⟩ := named
  simp [Line.classify, Line.candidates, stripped]

theorem Line.classify_ne_marker {raw : Text} (unnamed : markerName? raw = none) (name : Text) :
    Line.classify (Text.trim raw) ≠ .marker name := by
  intro classified
  have special : Line.classify (Text.trim raw) ≠ .paragraph := by simp [classified]
  have member := Line.mem_candidates special
  simp only [markerName?, Option.map_eq_none_iff] at unnamed
  rw [classified] at member
  simp [Line.candidates, unnamed, eq_comm (a := some (Line.marker name))] at member

/-- An element that is neither a list item nor a table row joins with nothing after it. -/
theorem Element.joins_line_eq_false {kind : Line} {text : Text}
    (noItem : ∀ list content, kind ≠ .item list content) (noRow : kind ≠ .tableRow)
    (next : Element) : Element.joins (.line kind text) next = false := by
  cases kind <;> simp_all [Element.joins]

/-- Numbers beyond the greatest one are not told apart. -/
theorem Section.following_min (count : Nat) (title : Text) :
    following (min count greatestNumber) title = following count title := by
  simp only [following, Section.mk.injEq, and_true]
  omega

namespace Reading

def closed (count : Nat) : Reading :=
  ⟨none, [], none, min count Section.greatestNumber⟩

def listing (count : Nat) (kind : ListKind) (items : List Text) : Reading :=
  ⟨some ⟨kind, items⟩, [], none, min count Section.greatestNumber⟩

def tabulating (count : Nat) (rows : List Text) : Reading :=
  ⟨none, rows, none, min count Section.greatestNumber⟩

/-- The run that a state outside of callouts still has open, after `count` sections. -/
inductive Pending (count : Nat) : Reading → List Element → Prop where
  | nothing : Pending count (closed count) []
  | list (kind : ListKind) (entries : List (Text × Text)) (nonempty : entries ≠ []) :
      Pending count (listing count kind (entries.map Prod.fst))
        (entries.map fun entry => .line (.item kind entry.1) entry.2)
  | table (rows : List Text) (nonempty : rows ≠ []) :
      Pending count (tabulating count rows) (rows.map (.line .tableRow))

namespace Pending

variable {count : Nat} {state : Reading} {parts : List Element}

theorem isChain (pending : Pending count state parts) :
    parts.IsChain fun first second => Element.joins first second := by
  cases pending with
  | nothing => exact List.isChain_nil
  | list kind entries nonempty =>
      apply List.Pairwise.isChain
      simp [List.pairwise_map, Element.joins, List.pairwise_of_forall]
  | table rows nonempty =>
      apply List.Pairwise.isChain
      simp [List.pairwise_map, Element.joins, List.pairwise_of_forall]

theorem countP_isTitle (pending : Pending count state parts) :
    parts.countP Element.isTitle = 0 := by
  cases pending <;> simp [Element.isTitle, List.countP_map, Function.comp_def]

theorem callout_eq_none (pending : Pending count state parts) : state.callout = none := by
  cases pending <;> rfl

theorem sectionCount_eq (pending : Pending count state parts) :
    state.sectionCount = min count Section.greatestNumber := by
  cases pending <;> rfl

theorem closeTable_closeList (pending : Pending count state parts) :
    state.closeTable.closeList = closed count := by
  cases pending <;> rfl

theorem closeList_closeTable (pending : Pending count state parts) :
    state.closeList.closeTable = closed count := by
  cases pending <;> rfl

/-- What is open at the end becomes the block of the open run. -/
theorem listBlocks_append_tableBlocks (pending : Pending count state parts) :
    state.listBlocks ++ state.tableBlocks = blocksFrom count (runs parts) := by
  have chain := pending.isChain
  cases pending with
  | nothing => rfl
  | list kind entries nonempty =>
      rw [blocksFrom_runs_of_isChain count (by simpa using nonempty) chain]
      obtain ⟨first, rest, rfl⟩ := List.exists_cons_of_ne_nil nonempty
      simp [runBlocks, listBlocks, tableBlocks, listing, Element.item?, List.filterMap_map,
        Function.comp_def]
  | table rows nonempty =>
      rw [blocksFrom_runs_of_isChain count (by simpa using nonempty) chain]
      obtain ⟨first, rest, rfl⟩ := List.exists_cons_of_ne_nil nonempty
      simp [runBlocks, listBlocks, tableBlocks, tabulating, Element.row?, List.filterMap_map,
        Function.comp_def]

/-- A list and a table are never open together, so their order is free. -/
theorem tableBlocks_append_listBlocks (pending : Pending count state parts) :
    state.tableBlocks ++ state.listBlocks = blocksFrom count (runs parts) := by
  rw [← pending.listBlocks_append_tableBlocks]
  cases pending <;> simp [listBlocks, tableBlocks, closed, listing, tabulating]

theorem blocksFrom_of_not_joins (pending : Pending count state parts) (next : Element)
    (rest : List Element) (apart : ∀ last ∈ parts.getLast?, Element.joins last next = false) :
    blocksFrom count (runs (parts ++ next :: rest)) =
      blocksFrom count (runs parts) ++ blocksFrom count (runs (next :: rest)) := by
  rw [blocksFrom_runs_append count (by simpa using apart), pending.countP_isTitle, Nat.add_zero]

theorem blocksFrom_of_alone (pending : Pending count state parts) (alone : Element)
    (rest : List Element) (before : ∀ last, Element.joins last alone = false)
    (after : ∀ next, Element.joins alone next = false) :
    blocksFrom count (runs (parts ++ alone :: rest)) =
      blocksFrom count (runs parts) ++ runBlocks count [alone] ++
        blocksFrom (count + [alone].countP Element.isTitle) (runs rest) := by
  rw [blocksFrom_runs_alone count parts rest before after, pending.countP_isTitle, Nat.add_zero]

end Pending

/-- An open callout takes in all lines up to the next marker. -/
theorem run_of_callout (current : OpenCallout) (sectionCount : Nat) (lines : List Text) :
    run ⟨none, [], some current, sectionCount⟩ lines =
      .callout current.kind (current.lines ++ calloutLines lines) ::
        run ⟨none, [], none, sectionCount⟩ (afterCallout lines) := by
  induction lines generalizing current with
  | nil => simp [run, finish, calloutLines, afterCallout, listBlocks, tableBlocks, calloutBlocks]
  | cons raw rest ih =>
      cases named : markerName? raw with
      | some name =>
          simp [run, feed, Line.classify_of_markerName named, feedMarker, calloutBlocks,
            calloutLines, afterCallout, isMarker, named]
      | none =>
          have fed : feed ⟨none, [], some current, sectionCount⟩ raw =
              (⟨none, [], some ⟨current.kind, current.lines ++ [raw]⟩, sectionCount⟩, []) := by
            have noMarker := Line.classify_ne_marker named
            simp only [feed]
          simp [run, fed, ih, calloutLines, afterCallout, isMarker, named]

/-- Feeding an element to a state keeps the invariant, and what it yields, followed by the
blocks of the run that is then open, are the blocks of the run open before and the element. -/
def Step (count : Nat) (parts : List Element) (next : Element) (fed : Reading × List Block) :
    Prop :=
  ∃ nextCount nextParts, Pending nextCount fed.1 nextParts ∧
    ∀ rest, blocksFrom count (runs (parts ++ next :: rest)) =
      fed.2 ++ blocksFrom nextCount (runs (nextParts ++ rest))

namespace Pending

variable {count : Nat} {state : Reading} {parts : List Element}

/-- An element that the open run does not go on with, fed to the state without that run. -/
theorem step_of_not_joins (pending : Pending count state parts) {next : Element}
    {after : Reading} (apart : ∀ last ∈ parts.getLast?, Element.joins last next = false)
    (fresh : Pending count after [next]) :
    Step count parts next (after, state.tableBlocks ++ state.listBlocks) := by
  refine ⟨count, [next], fresh, fun rest => ?_⟩
  rw [pending.blocksFrom_of_not_joins next rest apart, pending.tableBlocks_append_listBlocks]
  rfl

theorem step_tableRow (pending : Pending count state parts) (line : Text) :
    Step count parts (.line .tableRow line) (state.feedLine line .tableRow) := by
  have fresh : Pending count (tabulating count [line]) [.line .tableRow line] :=
    .table [line] (by simp)
  cases pending with
  | nothing => exact Pending.nothing.step_of_not_joins (by simp) fresh
  | list kind entries nonempty =>
      refine (Pending.list kind entries nonempty).step_of_not_joins (fun last member => ?_) fresh
      obtain ⟨entry, _, rfl⟩ := List.mem_map.mp (List.mem_of_getLast? member)
      rfl
  | table rows nonempty =>
      refine ⟨count, _, .table (rows ++ [line]) (by simp), fun rest => ?_⟩
      simp [feedLine, listBlocks, tabulating]

theorem step_item (pending : Pending count state parts) (kind : ListKind)
    (content line : Text) :
    Step count parts (.line (.item kind content) line)
      (state.feedLine line (.item kind content)) := by
  have fresh : Pending count (listing count kind [content]) [.line (.item kind content) line] :=
    .list kind [(content, line)] (by simp)
  cases pending with
  | nothing => exact Pending.nothing.step_of_not_joins (by simp) fresh
  | list current entries nonempty =>
      by_cases same : current = kind
      · subst same
        have longer : entries ++ [(content, line)] ≠ [] := by simp
        have fed : (listing count current (entries.map Prod.fst)).feedLine line
            (.item current content) =
            (listing count current ((entries ++ [(content, line)]).map Prod.fst), []) := by
          simp [feedLine, feedItem, listing, closeTable, tableBlocks]
        rw [fed]
        exact ⟨count, _, .list current _ longer, fun rest => by simp⟩
      · have fed : (listing count current (entries.map Prod.fst)).feedLine line
            (.item kind content) = (listing count kind [content],
              (listing count current (entries.map Prod.fst)).tableBlocks ++
                (listing count current (entries.map Prod.fst)).listBlocks) := by
          simp [feedLine, feedItem, listing, closeTable, tableBlocks, listBlocks, same]
        rw [fed]
        refine (Pending.list current entries nonempty).step_of_not_joins (fun last member => ?_)
          fresh
        obtain ⟨entry, _, rfl⟩ := List.mem_map.mp (List.mem_of_getLast? member)
        simpa [Element.joins] using same
  | table rows nonempty =>
      have fed : (tabulating count rows).feedLine line (.item kind content) =
          (listing count kind [content],
            (tabulating count rows).tableBlocks ++ (tabulating count rows).listBlocks) := by
        simp [feedLine, feedItem, listing, tabulating, closeTable, tableBlocks, listBlocks]
      rw [fed]
      refine (Pending.table rows nonempty).step_of_not_joins (fun last member => ?_) fresh
      obtain ⟨row, _, rfl⟩ := List.mem_map.mp (List.mem_of_getLast? member)
      rfl

/-- A line that is neither an item nor a row ends what is open and yields its own block. -/
theorem feedLine_alone (pending : Pending count state parts) {kind : Line} (line : Text)
    (noMarker : ∀ name, kind ≠ .marker name) (noItem : ∀ list content, kind ≠ .item list content)
    (noRow : kind ≠ .tableRow) :
    state.feedLine line kind =
      (closed (count + [Element.line kind line].countP Element.isTitle),
        blocksFrom count (runs parts) ++ runBlocks count [.line kind line]) := by
  have tableFirst := pending.tableBlocks_append_listBlocks
  have listFirst := pending.listBlocks_append_tableBlocks
  cases kind with
  | marker name => exact absurd rfl (noMarker name)
  | item list content => exact absurd rfl (noItem list content)
  | tableRow => exact absurd rfl noRow
  | title title =>
      simp only [feedLine, pending.sectionCount_eq, Section.following_min, listFirst,
        pending.closeList_closeTable, runBlocks]
      simp only [closed, Section.following, Element.isTitle, List.countP_singleton, if_true]
  | chart directive =>
      simp [feedLine, listFirst, pending.closeList_closeTable, runBlocks, Element.isTitle]
  | heading level title =>
      simp [feedLine, tableFirst, pending.closeTable_closeList, runBlocks, Element.isTitle]
  | blank => simp [feedLine, tableFirst, pending.closeTable_closeList, runBlocks, Element.isTitle]
  | paragraph =>
      simp [feedLine, tableFirst, pending.closeTable_closeList, runBlocks, Element.isTitle]

theorem step_alone (pending : Pending count state parts) {kind : Line} (line : Text)
    (noMarker : ∀ name, kind ≠ .marker name) (noItem : ∀ list content, kind ≠ .item list content)
    (noRow : kind ≠ .tableRow) :
    Step count parts (.line kind line) (state.feedLine line kind) := by
  have before (last : Element) : Element.joins last (.line kind line) = false := by
    cases last with
    | callout => rfl
    | line other text => cases other <;> cases kind <;> simp_all [Element.joins]
  have after : ∀ next, Element.joins (.line kind line) next = false :=
    Element.joins_line_eq_false noItem noRow
  rw [pending.feedLine_alone line noMarker noItem noRow]
  exact ⟨_, [], .nothing, fun rest => pending.blocksFrom_of_alone _ rest before after⟩

/-- Every line outside of callouts is read as the element that it is. -/
theorem step (pending : Pending count state parts) {kind : Line} (line : Text)
    (noMarker : ∀ name, kind ≠ .marker name) :
    Step count parts (.line kind line) (state.feedLine line kind) := by
  cases kind with
  | item list content => exact pending.step_item list content line
  | tableRow => exact pending.step_tableRow line
  | _ => exact pending.step_alone line noMarker (by simp) (by simp)

end Pending

theorem feed_of_unnamed {count : Nat} {state : Reading} {parts : List Element} {raw : Text}
    (pending : Pending count state parts) (unnamed : markerName? raw = none) :
    state.feed raw = state.feedLine (Text.trim raw) (Line.classify (Text.trim raw)) := by
  have noMarker := Line.classify_ne_marker unnamed
  simp only [feed, pending.callout_eq_none]

/-- Reading the lines after an open run yields the blocks of the run and their elements. -/
theorem run_of_pending {count : Nat} {state : Reading} {parts : List Element} (lines : List Text)
    (pending : Pending count state parts) :
    state.run lines = blocksFrom count (runs (parts ++ elements lines)) := by
  induction length : lines.length using Nat.strong_induction_on generalizing count state parts lines
  with
  | _ size ih =>
      cases lines with
      | nil =>
          simp only [run, finish, pending.listBlocks_append_tableBlocks, calloutBlocks,
            pending.callout_eq_none, List.append_nil, elements]
      | cons raw rest =>
          have shorter : rest.length < size := by
            simp only [List.length_cons] at length
            omega
          cases named : markerName? raw with
          | none =>
              obtain ⟨nextCount, nextParts, next, equation⟩ :=
                pending.step (Text.trim raw) (Line.classify_ne_marker named)
              simp only [run, feed_of_unnamed pending named, elements, named]
              rw [ih _ shorter rest next rfl, equation]
          | some name =>
              have classified := Line.classify_of_markerName named
              have spelled := ofName?_eq_calloutKind? name
              cases known : calloutKind? name with
              | none =>
                  have fed : state.feed raw = (state, []) := by
                    simp only [feed, classified, feedMarker, pending.callout_eq_none, spelled,
                      known]
                  simp only [run, fed, elements, named, known, List.nil_append]
                  exact ih _ shorter rest pending rfl
              | some kind =>
                  have fed : state.feed raw =
                      ({ closed count with callout := some ⟨kind, []⟩ },
                        blocksFrom count (runs parts)) := by
                    simp only [feed, classified, feedMarker, pending.callout_eq_none, spelled,
                      known, pending.closeList_closeTable, pending.listBlocks_append_tableBlocks]
                  have within : (afterCallout rest).length < size :=
                    Nat.lt_of_le_of_lt (afterCallout_length_le rest) shorter
                  have alone := pending.blocksFrom_of_alone
                    (.callout kind (calloutLines rest)) (elements (afterCallout rest))
                    (fun last => by cases last <;> simp [Element.joins]) (fun next => rfl)
                  simp only [run, fed, elements, named, known, alone]
                  rw [closed, run_of_callout, ← closed, ih _ within _ .nothing rfl]
                  simp [runBlocks, Element.isTitle]

end Reading

theorem dropByteOrderMark_append {first : Text} (nonempty : first ≠ []) (second : Text) :
    dropByteOrderMark (first ++ second) = dropByteOrderMark first ++ second := by
  obtain ⟨c, rest, rfl⟩ := List.exists_cons_of_ne_nil nonempty
  by_cases mark : c = '\uFEFF'
  · subst mark
    rfl
  · rw [List.cons_append, dropByteOrderMark, dropByteOrderMark, List.cons_append]
    all_goals simp [mark]

/-- The body of a report consists of the blocks of the grammar. -/
theorem Body.blocks_ofText (text : Text) : (Body.ofText text).blocks = Grammar.blocks text := by
  have start : Reading.start = Reading.closed 0 := rfl
  rw [Body.ofText, start, Reading.run_of_pending _ .nothing]
  rfl

end EnergyReport.Markup
