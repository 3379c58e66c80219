import EnergyReport.Markup.Block

namespace EnergyReport.Markup

/-! Reading a report line by line.

What is still open between two lines, a list, a table or a callout, is the state of the
reading. A line may close them, which yields their blocks, and may add to them or yield a
block of its own. At most one of the three is open at a time. -/

/-- A list whose next item may follow. -/
structure OpenList where
  kind : ListKind
  items : List Text
  deriving Repr, DecidableEq

/-- A callout whose closing marker has not come yet. -/
structure OpenCallout where
  kind : CalloutKind
  lines : List Text
  deriving Repr, DecidableEq

structure Reading where
  list : Option OpenList
  table : List Text
  callout : Option OpenCallout
  sectionCount : Nat
  deriving Repr, DecidableEq

namespace Reading

def start : Reading := ⟨none, [], none, 0⟩

def listBlocks (state : Reading) : List Block :=
  match state.list with
  | some current => [.list current.kind current.items]
  | none => []

def tableBlocks (state : Reading) : List Block :=
  if state.table.isEmpty then [] else [.table state.table]

def calloutBlocks (state : Reading) : List Block :=
  match state.callout with
  | some current => [.callout current.kind current.lines]
  | none => []

def closeList (state : Reading) : Reading := { state with list := none }

def closeTable (state : Reading) : Reading := { state with table := [] }

/-- A marker closes an open callout, whatever it names. Outside of a callout it opens
one of a known kind, and is dropped without a trace otherwise. -/
def feedMarker (state : Reading) (name : Text) : Reading × List Block :=
  match state.callout with
  | some _ => ({ state with callout := none }, state.calloutBlocks)
  | none =>
      match CalloutKind.ofName? name with
      | some kind =>
          ({ state.closeList.closeTable with callout := some ⟨kind, []⟩ },
            state.listBlocks ++ state.tableBlocks)
      | none => (state, [])

/-- Adds an item to the open list where it is of the same kind, and begins a new list
otherwise. -/
def feedItem (state : Reading) (kind : ListKind) (content : Text) : Reading × List Block :=
  match state.list with
  | some current =>
      if current.kind = kind then
        ({ state with list := some ⟨kind, current.items ++ [content]⟩ }, [])
      else ({ state with list := some ⟨kind, [content]⟩ }, state.listBlocks)
  | none => ({ state with list := some ⟨kind, [content]⟩ }, [])

/-- Takes in a line outside of callouts; `line` is trimmed. -/
def feedLine (state : Reading) (line : Text) : Line → Reading × List Block
  | .marker name => state.feedMarker name
  | .title title =>
      let sec := Section.following state.sectionCount title
      ({ state.closeList.closeTable with sectionCount := sec.number },
        state.listBlocks ++ state.tableBlocks ++ [.banner sec])
  | .chart directive =>
      (state.closeList.closeTable, state.listBlocks ++ state.tableBlocks ++ [.chart directive])
  | .tableRow => ({ state.closeList with table := state.table ++ [line] }, state.listBlocks)
  | .heading level title =>
      (state.closeTable.closeList, state.tableBlocks ++ state.listBlocks ++ [.heading level title])
  | .item kind content =>
      let (next, blocks) := state.closeTable.feedItem kind content
      (next, state.tableBlocks ++ blocks)
  | .blank => (state.closeTable.closeList, state.tableBlocks ++ state.listBlocks)
  | .paragraph =>
      (state.closeTable.closeList, state.tableBlocks ++ state.listBlocks ++ [.paragraph line])

/-- Takes in the next line. An open callout keeps every line but a marker as it is. -/
def feed (state : Reading) (raw : Text) : Reading × List Block :=
  let line := Text.trim raw
  match Line.classify line with
  | .marker name => state.feedMarker name
  | kind =>
      match state.callout with
      | some current => ({ state with callout := some ⟨current.kind, current.lines ++ [raw]⟩ }, [])
      | none => state.feedLine line kind

/-- The blocks of what is still open at the end. -/
def finish (state : Reading) : List Block :=
  state.listBlocks ++ state.tableBlocks ++ state.calloutBlocks

def run : Reading → List Text → List Block
  | state, [] => state.finish
  | state, raw :: rest =>
      let (next, blocks) := state.feed raw
      blocks ++ run next rest

end Reading

/-- The text without a byte order mark at its beginning. -/
def dropByteOrderMark : Text → Text
  | '\uFEFF' :: rest => rest
  | text => text

/-- The body that a report text describes. -/
def Body.ofText (text : Text) : Body :=
  ⟨Reading.start.run (Text.lines (dropByteOrderMark text))⟩

end EnergyReport.Markup
