import EnergyReport.Markup.Reading
import Mathlib.Data.List.SplitBy

namespace EnergyReport.Markup

/-! The block structure of a report, said without a reading state.

The callouts are cut out of the lines, the other markers are deleted, and the lines that
remain fall into maximal runs. A run of list items is one list, a run of table rows one
table, and every other element stands alone. Reading line by line yields the same blocks.
-/

/-- What a report consists of once the markers are gone. -/
inductive Element where
  /-- A trimmed line outside of callouts. -/
  | line (kind : Line) (text : Text)
  | callout (kind : CalloutKind) (lines : List Text)
  deriving Repr, DecidableEq

namespace Element

/-- Whether two neighbours belong to one block. -/
def joins : Element → Element → Bool
  | .line (.item first _) _, .line (.item second _) _ => first = second
  | .line .tableRow _, .line .tableRow _ => true
  | _, _ => false

def item? : Element → Option Text
  | .line (.item _ content) _ => some content
  | _ => none

def row? : Element → Option Text
  | .line .tableRow text => some text
  | _ => none

def isTitle : Element → Bool
  | .line (.title _) _ => true
  | _ => false

end Element

namespace Grammar

/-- What follows the three colons of a marker, trimmed. -/
def markerName? (raw : Text) : Option Text :=
  (Text.strip? [':', ':', ':'] (Text.trim raw)).map Text.trim

def isMarker (raw : Text) : Bool :=
  (markerName? raw).isSome

/-- The lines of a callout, in what follows the marker that opens it. -/
def calloutLines (lines : List Text) : List Text :=
  lines.takeWhile fun raw => !isMarker raw

/-- What follows the marker that closes a callout; nothing where there is none. -/
def afterCallout (lines : List Text) : List Text :=
  (lines.dropWhile fun raw => !isMarker raw).drop 1

theorem afterCallout_length_le (lines : List Text) :
    (afterCallout lines).length ≤ lines.length := by
  have dropped : (lines.dropWhile fun raw => !isMarker raw).length ≤ lines.length :=
    (List.dropWhile_sublist _).length_le
  simp only [afterCallout, List.length_drop]
  omega

/-- The kind of callout that a marker of this name opens. -/
def calloutKind? (name : Text) : Option CalloutKind :=
  if name = "info".toList then some .info
  else if name = "warning".toList then some .warning
  else if name = "tip".toList then some .tip
  else if name = "danger".toList then some .danger
  else none

theorem ofName?_eq_calloutKind? (name : Text) :
    CalloutKind.ofName? name = calloutKind? name := by
  simp only [CalloutKind.ofName?, CalloutKind.all, List.find?_cons, List.find?_nil,
    CalloutKind.name, calloutKind?, eq_comm (a := name)]
  split_ifs <;> simp only [*, decide_true, decide_false]

/-- The elements of some lines that no open callout precedes. -/
def elements : List Text → List Element
  | [] => []
  | raw :: rest =>
      match markerName? raw with
      | none => .line (Line.classify (Text.trim raw)) (Text.trim raw) :: elements rest
      | some name =>
          match calloutKind? name with
          | none => elements rest
          | some kind => .callout kind (calloutLines rest) :: elements (afterCallout rest)
termination_by lines => lines.length
decreasing_by
  · simp
  · simp
  · have := afterCallout_length_le rest
    simp only [List.length_cons]
    omega

/-- The maximal runs of neighbours that belong together. -/
def runs (parts : List Element) : List (List Element) :=
  parts.splitBy Element.joins

/-- The block of a run that `count` sections precede; blank lines have none. -/
def runBlocks (count : Nat) : List Element → List Block
  | .callout kind lines :: _ => [.callout kind lines]
  | .line (.title title) _ :: _ => [.banner (Section.following count title)]
  | .line (.chart directive) _ :: _ => [.chart directive]
  | .line (.heading level title) _ :: _ => [.heading level title]
  | .line .paragraph text :: _ => [.paragraph text]
  | .line (.item kind content) text :: rest =>
      [.list kind ((.line (.item kind content) text :: rest).filterMap Element.item?)]
  | .line .tableRow text :: rest =>
      [.table ((.line .tableRow text :: rest).filterMap Element.row?)]
  | _ => []

/-- The blocks of some runs that `count` sections precede. -/
def blocksFrom : Nat → List (List Element) → List Block
  | _, [] => []
  | count, run :: rest =>
      runBlocks count run ++ blocksFrom (count + run.countP Element.isTitle) rest

def blocks (text : Text) : List Block :=
  blocksFrom 0 (runs (elements (Text.lines (dropByteOrderMark text))))

theorem blocksFrom_append (count : Nat) (first second : List (List Element)) :
    blocksFrom count (first ++ second) =
      blocksFrom count first ++
        blocksFrom (count + first.flatten.countP Element.isTitle) second := by
  induction first generalizing count with
  | nil => simp [blocksFrom]
  | cons run rest ih =>
      simp only [List.cons_append, blocksFrom, ih, List.append_assoc, List.flatten_cons,
        List.countP_append, Nat.add_assoc]

/-- Parts whose elements do not join have their own blocks. -/
theorem blocksFrom_runs_append (count : Nat) {first second : List Element}
    (apart : ∀ last ∈ first.getLast?, ∀ next ∈ second.head?, Element.joins last next = false) :
    blocksFrom count (runs (first ++ second)) =
      blocksFrom count (runs first) ++
        blocksFrom (count + first.countP Element.isTitle) (runs second) := by
  rw [runs, List.splitBy_append apart, blocksFrom_append]
  simp [runs]

theorem blocksFrom_runs_of_isChain (count : Nat) {parts : List Element} (nonempty : parts ≠ [])
    (chain : parts.IsChain fun first second => Element.joins first second) :
    blocksFrom count (runs parts) = runBlocks count parts := by
  rw [runs, List.splitBy_of_isChain nonempty chain]
  simp [blocksFrom]

/-- An element that joins with nothing before or after it is a run of its own. -/
theorem blocksFrom_runs_alone (count : Nat) (before : List Element) {alone : Element}
    (after : List Element) (apartBefore : ∀ last, Element.joins last alone = false)
    (apartAfter : ∀ next, Element.joins alone next = false) :
    blocksFrom count (runs (before ++ alone :: after)) =
      blocksFrom count (runs before) ++
        runBlocks (count + before.countP Element.isTitle) [alone] ++
          blocksFrom (count + before.countP Element.isTitle + [alone].countP Element.isTitle)
            (runs after) := by
  have around : alone :: after = [alone] ++ after := rfl
  have leads : ∀ last ∈ before.getLast?, ∀ next ∈ (alone :: after).head?,
      Element.joins last next = false := by
    rintro last _ next ⟨rfl⟩
    exact apartBefore last
  have trails : ∀ last ∈ [alone].getLast?, ∀ next ∈ after.head?,
      Element.joins last next = false := by
    rintro last ⟨rfl⟩ next _
    exact apartAfter next
  rw [blocksFrom_runs_append count leads, around, blocksFrom_runs_append _ trails,
    blocksFrom_runs_of_isChain _ (by simp) (List.isChain_singleton _), List.append_assoc]

end Grammar

end EnergyReport.Markup
