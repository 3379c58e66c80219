import EnergyReport.Proofs.Markup.Reading
import EnergyReport.Proofs.Markup.Table

namespace EnergyReport.Markup

/-! What is written for each run of the grammar.

A run of list items is one list, with an item for each line, and a run of table rows one table. A
callout, a title, a heading, a directive and a paragraph have a fragment each, and blank lines have
none. The page of a report is these fragments, one after the other. -/

open Table (framed)

namespace Grammar

def formatted (badges : Badges) (text : Text) : String :=
  Html.render (Inline.pieces badges text)

def twoDigits (number : Nat) : String :=
  String.ofList ((Nat.toDigits 10 number).leftpad 2 '0')

/-- The colors of the banners, which take turns. -/
def bannerColors : List String := ["#47b5e8", "#7ed321", "#f5a623", "#4a90e2", "#bd10e0"]

def attributed (tag attributes content : String) : String :=
  "<" ++ tag ++ " " ++ attributes ++ ">" ++ content ++ "</" ++ tag ++ ">"

def writtenBanner (number : Nat) (title : Text) : String :=
  let label := twoDigits number
  let color := bannerColors.get (Fin.ofNat 5 (number - 1))
  attributed "div"
    (s!"class=\"section-separator\" id=\"section-{label}\" " ++
      s!"style=\"background: {color}\"")
    (attributed "div" "class=\"section-number\"" (label ++ ".") ++
      attributed "div" "class=\"section-title\"" (String.ofList (Html.escape title)))

/-- The chart of a change of grades that a paragraph mentions. -/
def writtenComparison (line : Text) : String :=
  if line.head? = some '|' then ""
  else
    match Transition.find? line with
    | some (before, after) => Html.render (Chart.comparisonOf [before] [after])
    | none => ""

def writtenItem (content : Text) : String :=
  framed "li" (formatted .shown content)

def writtenCalloutLine (raw : Text) : String :=
  if Text.trim raw = [] then "<br>" else framed "p" (formatted .shown (Text.trim raw))

def writtenCallout (kind : CalloutKind) (lines : List Text) : String :=
  attributed "div"
    (s!"class=\"callout callout-{kind.name}\" " ++
      s!"style=\"border-left: 4px solid {kind.accent}; background: {kind.background}\"")
    (attributed "div" s!"class=\"callout-header\" style=\"color: {kind.accent}\""
        (attributed "span" "class=\"callout-icon\"" kind.icon ++
          attributed "span" "class=\"callout-title\"" kind.title) ++
      attributed "div" "class=\"callout-content\"" (String.join (lines.map writtenCalloutLine)))

/-- What is written for a run that `count` sections precede. -/
def fragment (count : Nat) : List Element → String
  | .callout kind lines :: _ => writtenCallout kind lines
  | .line (.title title) _ :: _ => writtenBanner (min (count + 1) 4294967295) title
  | .line (.chart directive) _ :: _ => Html.render directive.pieces
  | .line (.heading .second title) _ :: _ => framed "h2" (formatted .suppressed title)
  | .line (.heading .third title) _ :: _ => framed "h3" (formatted .suppressed title)
  | .line .paragraph text :: _ => framed "p" (formatted .shown text) ++ writtenComparison text
  | .line (.item .bullet content) _ :: rest =>
      framed "ul" (String.join ((content :: rest.filterMap Element.item?).map writtenItem))
  | .line (.item .ordered content) _ :: rest =>
      framed "ol" (String.join ((content :: rest.filterMap Element.item?).map writtenItem))
  | .line .tableRow header :: rest =>
      Table.written (Table.cells header)
        (((rest.filterMap Element.row?).filter fun line => !Table.isSeparator line).map Table.cells)
  | _ => ""

def fragmentsFrom : Nat → List (List Element) → List String
  | _, [] => []
  | count, run :: rest =>
      fragment count run :: fragmentsFrom (count + run.countP Element.isTitle) rest

/-- The lines of a text, without the byte order mark at its beginning. -/
def linesOf (text : Text) : List Text :=
  List.splitOn '\n' (if text.head? = some '\uFEFF' then text.tail else text)

def fragments (text : Text) : List String :=
  fragmentsFrom 0 (runs (elements (linesOf text)))

/-! ### The blocks as they are written -/

theorem label_eq_twoDigits (sec : Section) : sec.label = twoDigits sec.number := by
  rw [Section.label, twoDigits, Nat.toString_eq_ofList_toDigits]
  split_ifs with short
  · rw [Nat.toDigits_of_lt_base short, List.leftpad, String.ofList_append]
    rfl
  · have long : ¬ (Nat.toDigits 10 sec.number).length ≤ 1 := by
      rwa [Nat.length_toDigits_le_iff (by decide) (by decide)]
    have full : 2 - (Nat.toDigits 10 sec.number).length = 0 := by omega
    rw [List.leftpad, full, List.replicate_zero, List.nil_append]

theorem colorOf_eq_get {number : Nat} (turn : Fin 5) (same : (number - 1) % 5 = turn) :
    Section.colorOf number = bannerColors.get turn := by
  rw [Section.colorOf, same]
  match turn with
  | 0 | 1 | 2 | 3 | 4 => rfl

theorem render_element_of_tag {tag : String} {list : List Html.Attribute} (attributes : String)
    (written : Html.renderTag tag list = tag ++ " " ++ attributes) (content : List Html.Piece) :
    Html.render (Html.element tag list content) =
      attributed tag attributes (Html.render content) := by
  rw [Html.render_element, written, attributed]
  simp only [String.append_assoc]

theorem render_verbatim (characters : String) :
    Html.render [.verbatim characters] = characters :=
  String.empty_append

theorem render_banner (sec : Section) :
    Html.render sec.banner = writtenBanner sec.number sec.title := by
  have color : sec.color = bannerColors.get (Fin.ofNat 5 (sec.number - 1)) :=
    colorOf_eq_get _ rfl
  have tag : Html.renderTag "div" [("class", "section-separator"), ("id", sec.anchor),
      ("style", "background: " ++ sec.color)] = "div" ++ " " ++
        (s!"class=\"section-separator\" id=\"section-{sec.label}\" " ++
          s!"style=\"background: {sec.color}\"") := by
    -- label and color stand inside the tag, so both sides are compared as characters
    apply String.toList_injective
    simp only [Html.renderTag, Html.renderAttribute, Section.anchor, String.toList_append,
      String.toList_join, List.map_cons, List.map_nil, List.flatMap_cons, List.flatMap_nil,
      List.append_assoc, List.append_nil]
    rfl
  have number : Html.render [.verbatim (sec.label ++ ".")] = sec.label ++ "." := render_verbatim _
  have title : Html.render [.text sec.title] = String.ofList (Html.escape sec.title) :=
    String.empty_append
  rw [Section.banner, render_element_of_tag _ tag, Html.render_append, Html.textElement,
    render_element_of_tag "class=\"section-number\"" rfl,
    render_element_of_tag "class=\"section-title\"" rfl, number, title, writtenBanner,
    label_eq_twoDigits, color]

theorem render_item (content : Text) : Html.render (Block.item content) = writtenItem content :=
  Table.render_element_bare "li" _

theorem render_items (contents : List Text) :
    Html.render (contents.flatMap Block.item) = String.join (contents.map writtenItem) := by
  simp only [Html.render_flatMap, render_item]

theorem render_transitionChart (line : Text) :
    Html.render (Block.transitionChart line) = writtenComparison line := by
  rw [Block.transitionChart, writtenComparison]
  split_ifs
  · rfl
  · cases Transition.find? line <;> rfl

theorem render_linePieces (raw : Text) :
    Html.render (Callout.linePieces raw) = writtenCalloutLine raw := by
  simp only [Callout.linePieces, writtenCalloutLine, List.isEmpty_iff]
  split_ifs
  · rfl
  · exact Table.render_element_bare "p" _

theorem render_callout (kind : CalloutKind) (lines : List Text) :
    Html.render (Callout.pieces kind lines) = writtenCallout kind lines := by
  have box : Html.renderTag "div" [("class", "callout callout-" ++ kind.name),
      ("style", s!"border-left: 4px solid {kind.accent}; background: {kind.background}")] =
        "div" ++ " " ++ (s!"class=\"callout callout-{kind.name}\" " ++
          s!"style=\"border-left: 4px solid {kind.accent}; background: {kind.background}\"") := by
    cases kind <;> rfl
  have header : Html.renderTag "div"
      [("class", "callout-header"), ("style", "color: " ++ kind.accent)] =
        "div" ++ " " ++ s!"class=\"callout-header\" style=\"color: {kind.accent}\"" := by
    cases kind <;> rfl
  rw [Callout.pieces, render_element_of_tag _ box, Html.render_append, Callout.header,
    render_element_of_tag _ header, Html.render_append,
    render_element_of_tag "class=\"callout-icon\"" rfl,
    render_element_of_tag "class=\"callout-title\"" rfl,
    render_element_of_tag "class=\"callout-content\"" rfl, render_verbatim, render_verbatim,
    Html.render_flatMap, writtenCallout]
  simp only [render_linePieces]

/-- Every run is written as its fragment, whatever stands around it. -/
theorem render_runBlocks (count : Nat) (run : List Element) :
    Html.render ((runBlocks count run).flatMap Block.pieces) = fragment count run := by
  cases run with
  | nil => rfl
  | cons first rest =>
      cases first with
      | callout kind lines =>
          rw [runBlocks, List.flatMap_singleton]
          exact render_callout kind lines
      | line kind text =>
          cases kind with
          | marker | blank => rfl
          | title title =>
              rw [runBlocks, List.flatMap_singleton]
              exact render_banner _
          | chart directive => rw [runBlocks, List.flatMap_singleton, Block.pieces, fragment]
          | heading level title =>
              rw [runBlocks, List.flatMap_singleton, Block.pieces, Table.render_element_bare]
              cases level <;> rfl
          | item kind content =>
              rw [runBlocks, List.flatMap_singleton, Block.pieces, Table.render_element_bare,
                render_items]
              cases kind <;> rfl
          | tableRow =>
              rw [runBlocks, List.flatMap_singleton]
              exact Table.render_pieces text _
          | paragraph =>
              rw [runBlocks, List.flatMap_singleton, Block.pieces, Html.render_append,
                Table.render_element_bare, render_transitionChart]
              rfl

example :
    fragment 0 [.line (.item .bullet "a".toList) [], .line (.item .bullet "**b**".toList) []] =
      "<ul><li>a</li><li><strong>b</strong></li></ul>" := by
  decide +kernel

theorem render_blocksFrom (count : Nat) (parts : List (List Element)) :
    Html.render ((blocksFrom count parts).flatMap Block.pieces) =
      String.join (fragmentsFrom count parts) := by
  induction parts generalizing count with
  | nil => rfl
  | cons run rest ih =>
      rw [blocksFrom, List.flatMap_append, Html.render_append, render_runBlocks, ih, fragmentsFrom,
        String.join_cons]

theorem lines_dropByteOrderMark (text : Text) :
    Text.lines (dropByteOrderMark text) = linesOf text := by
  rw [Text.lines, Text.splitOn_eq, linesOf]
  cases text with
  | nil => rfl
  | cons c rest =>
      by_cases mark : c = '\uFEFF'
      · rw [mark]
        rfl
      · rw [dropByteOrderMark, if_neg]
        all_goals simp [mark]

end Grammar

/-- The page of a report is, in the order of its text, the fragments of the callouts, of the
maximal runs of list items and table rows, and of the other lines outside of callouts. -/
theorem render_ofText_eq_join_fragments (text : Text) :
    Html.render (Body.ofText text).pieces = String.join (Grammar.fragments text) := by
  rw [Body.pieces, Body.blocks_ofText, Grammar.blocks, Grammar.render_blocksFrom,
    Grammar.lines_dropByteOrderMark, Grammar.fragments]

end EnergyReport.Markup
