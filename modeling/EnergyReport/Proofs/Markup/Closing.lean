import EnergyReport.Proofs.Markup.State
import EnergyReport.Proofs.Text.LineEnding
import EnergyReport.Proofs.Text.Search

namespace EnergyReport.Markup

/-! What is open between two lines, and the order in which it is closed at the end.

After any lines at most one of a list, a table and a callout is open, so that at most one of the
three has a block to give, and it does not matter which one is asked first. -/

/-- What a reading may have open between two lines. -/
inductive OpenPart where
  | list
  | table
  | callout
  deriving Repr, DecidableEq

def OpenPart.all : List OpenPart := [.list, .table, .callout]

theorem Line.isTableRow_of_classify {line : Text} (classified : Line.classify line = .tableRow) :
    Line.isTableRow line := by
  have special : Line.classify line ≠ .paragraph := by simp [classified]
  have member := Line.mem_candidates special
  rw [classified] at member
  simpa [Line.candidates, eq_comm (a := some Line.tableRow)] using member

namespace Reading

/-- A line that is no marker does not close an open callout, and is kept as it is. -/
theorem feed_of_kept {state : Reading} {current : OpenCallout} {raw : Text}
    (isOpen : state.callout = some current) (noMarker : ¬ [':', ':', ':'] <+: Text.trim raw) :
    state.feed raw =
      ({ state with callout := some ⟨current.kind, current.lines ++ [raw]⟩ }, []) := by
  have unnamed : Grammar.markerName? raw = none := by
    rw [Grammar.markerName?, Option.map_eq_none_iff, Text.strip?_eq_none_iff]
    exact noMarker
  have classified := Line.classify_ne_marker unnamed
  simp only [feed, isOpen]

/-! ### The table -/

/-- The rows of the open table are trimmed and stand between two bars. -/
def RowsBarred (state : Reading) : Prop :=
  ∀ row ∈ state.table, row.head? = some '|' ∧ row.getLast? = some '|' ∧ Text.trim row = row

/-- What a line does to the table: it ends it, leaves it, or is its next row. -/
theorem table_feedLine (state : Reading) (line : Text) (kind : Line) :
    (state.feedLine line kind).1.table = [] ∨
      (state.feedLine line kind).1.table = state.table ∨
      kind = .tableRow ∧ (state.feedLine line kind).1.table = state.table ++ [line] := by
  cases kind with
  | marker name =>
      simp only [feedLine, feedMarker]
      split
      · exact .inr (.inl rfl)
      · split
        · exact .inl rfl
        · exact .inr (.inl rfl)
  | item kind content =>
      simp only [feedLine, feedItem]
      split
      · split <;> exact .inl rfl
      · exact .inl rfl
  | tableRow => exact .inr (.inr ⟨rfl, rfl⟩)
  | title title | chart directive | heading level title | blank | paragraph => exact .inl rfl

theorem table_feed (state : Reading) (raw : Text) :
    (state.feed raw).1.table = [] ∨ (state.feed raw).1.table = state.table ∨
      Line.classify (Text.trim raw) = .tableRow ∧
        (state.feed raw).1.table = state.table ++ [Text.trim raw] := by
  cases callout : state.callout with
  | none =>
      rw [feed_of_outside callout]
      exact state.table_feedLine _ _
  | some current =>
      rcases feed_of_callout callout raw with fed | fed <;> rw [fed] <;> exact .inr (.inl rfl)

theorem RowsBarred.feed {state : Reading} (barred : RowsBarred state) (raw : Text) :
    RowsBarred (state.feed raw).1 := by
  intro row member
  rcases state.table_feed raw with ended | left | ⟨classified, longer⟩
  · simp [ended] at member
  · exact barred row (left ▸ member)
  · rw [longer, List.mem_append, List.mem_singleton] at member
    rcases member with before | rfl
    · exact barred row before
    · have ends := Line.isTableRow_of_classify classified
      simp only [Line.isTableRow, Bool.and_eq_true, decide_eq_true_eq] at ends
      exact ⟨ends.1, ends.2, Text.trim_trim raw⟩

theorem RowsBarred.readLines {state : Reading} (barred : RowsBarred state) (lines : List Text) :
    RowsBarred (state.readLines lines).1 := by
  induction lines generalizing state with
  | nil => exact barred
  | cons raw rest ih => exact ih (barred.feed raw)

/-! ### Closing what is open -/

def HasOpen (state : Reading) : OpenPart → Prop
  | .list => state.list ≠ none
  | .table => state.table ≠ []
  | .callout => state.callout ≠ none

def AtMostOneOpen (state : Reading) : Prop :=
  ∀ first second, state.HasOpen first → state.HasOpen second → first = second

def close (state : Reading) : OpenPart → Reading × List Block
  | .list => (state.closeList, state.listBlocks)
  | .table => (state.closeTable, state.tableBlocks)
  | .callout => ({ state with callout := none }, state.calloutBlocks)

def closeAll : Reading → List OpenPart → Reading × List Block
  | state, [] => (state, [])
  | state, part :: rest =>
      let (next, blocks) := state.close part
      let (last, others) := closeAll next rest
      (last, blocks ++ others)

theorem Consistent.atMostOneOpen {count : Nat} {state : Reading}
    (consistent : Consistent count state) : AtMostOneOpen state := by
  obtain ⟨listOrTable, calloutAlone, -⟩ := consistent
  intro first second
  cases first <;> cases second <;> simp only [HasOpen] <;> grind

section Close

variable {state : Reading} {part other : OpenPart}

theorem close_of_not_hasOpen (nothing : ¬ state.HasOpen part) : (state.close part).2 = [] := by
  cases part <;> simp only [HasOpen, ne_eq, not_not] at nothing <;>
    simp [close, listBlocks, tableBlocks, calloutBlocks, nothing]

/-- Closing a part leaves the others as they are. -/
theorem close_close_of_ne (different : part ≠ other) :
    ((state.close part).1.close other).2 = (state.close other).2 := by
  cases part <;> cases other <;> first | rfl | exact absurd rfl different

theorem close_close_comm (state : Reading) (part other : OpenPart) :
    ((state.close part).1.close other).1 = ((state.close other).1.close part).1 := by
  cases part <;> cases other <;> rfl

theorem hasOpen_of_close (isOpen : (state.close part).1.HasOpen other) : state.HasOpen other := by
  cases part <;> cases other <;> first | exact isOpen | exact absurd rfl isOpen

theorem AtMostOneOpen.close (alone : AtMostOneOpen state) (part : OpenPart) :
    AtMostOneOpen (state.close part).1 :=
  fun first second isOpen isOpen' =>
    alone first second (hasOpen_of_close isOpen) (hasOpen_of_close isOpen')

/-- Two parts, one of which has no block to give, may change places. -/
theorem AtMostOneOpen.closeAll_swap (alone : AtMostOneOpen state) (part other : OpenPart)
    (rest : List OpenPart) :
    state.closeAll (part :: other :: rest) = state.closeAll (other :: part :: rest) := by
  by_cases same : part = other
  · rw [same]
  · -- the blocks keep their order because one of the two parts has none
    have nothing : (state.close part).2 = [] ∨ (state.close other).2 = [] := by
      by_cases isOpen : state.HasOpen part
      · exact .inr (close_of_not_hasOpen fun isOpen' => same (alone _ _ isOpen isOpen'))
      · exact .inl (close_of_not_hasOpen isOpen)
    simp only [closeAll, state.close_close_comm part other, close_close_of_ne same,
      close_close_of_ne (Ne.symm same)]
    rcases nothing with nothing | nothing <;> simp [nothing]

theorem AtMostOneOpen.closeAll_perm (alone : AtMostOneOpen state) {order order' : List OpenPart}
    (permuted : order.Perm order') : state.closeAll order = state.closeAll order' := by
  induction permuted generalizing state with
  | nil => rfl
  | cons part _ ih => simp only [closeAll, ih (alone.close part)]
  | swap part other rest => exact alone.closeAll_swap other part rest
  | trans _ _ ih ih' => exact (ih alone).trans (ih' alone)

/-- The end of a text closes the list, the table and the callout, in this order. -/
theorem closeAll_all (state : Reading) :
    state.closeAll OpenPart.all = (⟨none, [], none, state.sectionCount⟩, state.finish) := by
  simp only [OpenPart.all, closeAll, close, finish, List.append_nil, List.append_assoc]
  rfl

end Close

/-- After any lines at most one of a list, a table and a callout is open, the rows of an open table
are trimmed lines between bars, and an open callout takes in every line that is no marker and leaves
all else as it is. So the three may be closed in any order at the end of the text. -/
theorem readLines_atMostOneOpen (lines : List Text) :
    let state := (start.readLines lines).1
    AtMostOneOpen state ∧
      (∀ row ∈ state.table,
        row.head? = some '|' ∧ row.getLast? = some '|' ∧ Text.trim row = row) ∧
      (∀ current, state.callout = some current →
        ∀ raw, ¬ [':', ':', ':'] <+: Text.trim raw → state.feed raw =
          ({ state with callout := some ⟨current.kind, current.lines ++ [raw]⟩ }, [])) ∧
      ∀ order : List OpenPart, order.Perm OpenPart.all →
        state.closeAll order = (⟨none, [], none, state.sectionCount⟩, state.finish) := by
  intro state
  have alone : AtMostOneOpen state := (consistent_start.readLines lines).atMostOneOpen
  have barred : RowsBarred start := by simp [RowsBarred, start]
  refine ⟨alone, barred.readLines lines, fun current isOpen raw => feed_of_kept isOpen, ?_⟩
  intro order permuted
  rw [alone.closeAll_perm permuted, closeAll_all]

/-- A list, a table that closes it, and a callout that closes the table. -/
def closingLines : List Text := ["- a".toList, " | x |".toList, ":::info".toList, "y".toList]

theorem readLines_atMostOneOpen_closingLines :
    (start.readLines (closingLines.take 2)).1 = ⟨none, ["| x |".toList], none, 0⟩ ∧
      Text.trim "| x |".toList = "| x |".toList ∧
      (start.readLines closingLines).1 = ⟨none, [], some ⟨.info, ["y".toList]⟩, 0⟩ ∧
      feed ⟨none, [], some ⟨.info, ["y".toList]⟩, 0⟩ "# z".toList =
        (⟨none, [], some ⟨.info, ["y".toList, "# z".toList]⟩, 0⟩, []) ∧
      closeAll ⟨none, [], some ⟨.info, ["y".toList]⟩, 0⟩ [.callout, .table, .list] =
        (⟨none, [], none, 0⟩, [.callout .info ["y".toList]]) := by
  have table : (start.readLines (closingLines.take 2)).1 =
      ⟨none, ["| x |".toList], none, 0⟩ := by decide +kernel
  have callout : (start.readLines closingLines).1 =
      ⟨none, [], some ⟨.info, ["y".toList]⟩, 0⟩ := by decide +kernel
  obtain ⟨-, rows, -, -⟩ := readLines_atMostOneOpen (closingLines.take 2)
  obtain ⟨-, -, kept, closes⟩ := readLines_atMostOneOpen closingLines
  rw [table] at rows
  rw [callout] at kept closes
  exact ⟨table, (rows _ (List.mem_singleton_self _)).2.2, callout,
    kept _ rfl _ (by decide +kernel), closes _ (by decide)⟩

end Reading

end EnergyReport.Markup
