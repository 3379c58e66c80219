import EnergyReport.Proofs.Markup.State
import EnergyReport.Proofs.Text.LineEnding

namespace EnergyReport.Markup

/-! Blanks at the ends of a line say nothing, so that reports with the same trimmed lines have
the same page. Lines outside of callouts are trimmed when they are read; those of a callout are
kept as they are and trimmed when they are written. -/

/-- The block with its callout lines trimmed. -/
def Block.trimmed : Block → Block
  | .callout kind lines => .callout kind (lines.map Text.trim)
  | block => block

theorem Block.pieces_trimmed (block : Block) : block.trimmed.pieces = block.pieces := by
  cases block with
  | callout kind lines =>
      have line (line : Text) : Callout.linePieces (Text.trim line) = Callout.linePieces line := by
        simp [Callout.linePieces]
      simp [trimmed, pieces, Callout.pieces, List.flatMap_map, line]
  | _ => rfl

theorem Block.section?_trimmed (block : Block) : block.trimmed.section? = block.section? := by
  cases block <;> rfl

namespace Reading

def trimmed (state : Reading) : Reading :=
  { state with
    callout := state.callout.map fun current => ⟨current.kind, current.lines.map Text.trim⟩ }

theorem trimmed_of_outside {state : Reading} (outside : state.callout = none) :
    state.trimmed = state := by
  obtain ⟨list, table, callout, count⟩ := state
  cases outside
  rfl

theorem map_trimmed_listBlocks (state : Reading) :
    state.listBlocks.map Block.trimmed = state.listBlocks := by
  unfold listBlocks
  split <;> rfl

theorem map_trimmed_tableBlocks (state : Reading) :
    state.tableBlocks.map Block.trimmed = state.tableBlocks := by
  unfold tableBlocks
  split <;> rfl

theorem map_trimmed_calloutBlocks (state : Reading) :
    state.calloutBlocks.map Block.trimmed = state.trimmed.calloutBlocks := by
  unfold calloutBlocks trimmed
  cases state.callout <;> rfl

/-- Outside of callouts a line leaves nothing that could be trimmed. -/
theorem feedLine_trimmed {state : Reading} (outside : state.callout = none) (line : Text)
    (kind : Line) :
    (state.feedLine line kind).1.trimmed = (state.feedLine line kind).1 ∧
      (state.feedLine line kind).2.map Block.trimmed = (state.feedLine line kind).2 := by
  cases kind with
  | marker name =>
      simp only [feedLine, feedMarker, outside]
      split
      · simp only [List.map_append, map_trimmed_listBlocks, map_trimmed_tableBlocks, and_true]
        rfl
      · exact ⟨trimmed_of_outside outside, rfl⟩
  | item kind content =>
      have noTable : state.closeTable.callout = none := outside
      simp only [feedLine, feedItem, List.map_append, map_trimmed_tableBlocks]
      split
      · split
        · exact ⟨trimmed_of_outside noTable, by simp⟩
        · exact ⟨trimmed_of_outside noTable, by rw [map_trimmed_listBlocks]⟩
      · exact ⟨trimmed_of_outside noTable, by simp⟩
  | title title | chart directive | tableRow | heading level title | blank | paragraph =>
      refine ⟨trimmed_of_outside outside, ?_⟩
      simp [feedLine, map_trimmed_listBlocks, map_trimmed_tableBlocks, Block.trimmed]

/-- A trimmed line does to a state what the line does, but for the trimming. -/
theorem feed_trim (state : Reading) (raw : Text) :
    state.trimmed.feed (Text.trim raw) =
      ((state.feed raw).1.trimmed, (state.feed raw).2.map Block.trimmed) := by
  cases callout : state.callout with
  | none =>
      obtain ⟨next, blocks⟩ :=
        feedLine_trimmed callout (Text.trim raw) (Line.classify (Text.trim raw))
      rw [trimmed_of_outside callout, feed_of_outside callout, feed_of_outside callout,
        Text.trim_trim, next, blocks]
  | some current =>
      -- a marker closes the callout, and any other line is kept in it as it is
      have inside : state.trimmed.callout =
          some ⟨current.kind, current.lines.map Text.trim⟩ := by
        simp [trimmed, callout]
      simp only [feed, Text.trim_trim, callout, inside]
      split
      · simp only [feedMarker, callout, inside, map_trimmed_calloutBlocks]
        rfl
      · simp [trimmed]

/-- So do any number of lines. -/
theorem run_trim (state : Reading) (lines : List Text) :
    state.trimmed.run (lines.map Text.trim) = (state.run lines).map Block.trimmed := by
  induction lines generalizing state with
  | nil =>
      simp only [List.map_nil, run, finish, List.map_append, map_trimmed_listBlocks,
        map_trimmed_tableBlocks, map_trimmed_calloutBlocks]
      rfl
  | cons raw rest ih =>
      rw [List.map_cons, run, feed_trim, run, List.map_append, ← ih]

end Reading

theorem Body.blocks_map_trimmed (text : Text) :
    (Body.ofText text).blocks.map Block.trimmed =
      Reading.start.run ((Text.lines (dropByteOrderMark text)).map Text.trim) :=
  (Reading.start.run_trim _).symm

/-- Reports with the same trimmed lines have the same page and the same sections. -/
theorem Body.pieces_eq_of_trim {first second : Text}
    (same : (Text.lines (dropByteOrderMark first)).map Text.trim =
      (Text.lines (dropByteOrderMark second)).map Text.trim) :
    (Body.ofText first).pieces = (Body.ofText second).pieces ∧
      (Body.ofText first).sections = (Body.ofText second).sections := by
  have blocks : (Body.ofText first).blocks.map Block.trimmed =
      (Body.ofText second).blocks.map Block.trimmed := by
    rw [blocks_map_trimmed, blocks_map_trimmed, same]
  have pieces := congrArg (List.flatMap Block.pieces) blocks
  have sections := congrArg (List.filterMap Block.section?) blocks
  simp only [List.flatMap_map, Block.pieces_trimmed] at pieces
  simp only [List.filterMap_map, Function.comp_def, Block.section?_trimmed] at sections
  exact ⟨pieces, sections⟩

theorem dropByteOrderMark_crlf (text : Text) :
    dropByteOrderMark (Text.crlf text) = Text.crlf (dropByteOrderMark text) := by
  cases text with
  | nil => rfl
  | cons c rest =>
      by_cases feed : c = '\n'
      · subst feed
        rfl
      · by_cases mark : c = '\uFEFF'
        · subst mark
          rfl
        · rw [Text.crlf_cons feed, dropByteOrderMark, dropByteOrderMark, Text.crlf_cons feed]
          all_goals simp [mark]

theorem map_trim_lines_crlf (text : Text) :
    (Text.lines (dropByteOrderMark (Text.crlf text))).map Text.trim =
      (Text.lines (dropByteOrderMark text)).map Text.trim := by
  have lines := Text.map_trim_lines_crlf (.inl rfl) (dropByteOrderMark text)
  rwa [dropByteOrderMark_crlf, ← List.append_nil (Text.crlf (dropByteOrderMark text))]

end EnergyReport.Markup
