import EnergyReport.Chart.Comparison
import EnergyReport.Markup.Callout
import EnergyReport.Markup.Line
import EnergyReport.Markup.Section
import EnergyReport.Markup.Table
import EnergyReport.Markup.Transition

namespace EnergyReport.Markup

/-! The blocks of a report. -/

inductive Block where
  | banner (sec : Section)
  | heading (level : HeadingLevel) (title : Text)
  | paragraph (line : Text)
  | list (kind : ListKind) (items : List Text)
  | table (rows : List Text)
  | callout (kind : CalloutKind) (lines : List Text)
  | chart (directive : Directive)
  deriving Repr, DecidableEq

namespace Block

/-- The comparison chart of a paragraph that mentions a change of grades. A paragraph
that begins like a table row has none. -/
def transitionChart (line : Text) : List Html.Piece :=
  if line.head? = some '|' then []
  else
    match Transition.find? line with
    | some (before, after) => Chart.comparisonOf [before] [after]
    | none => []

def item (content : Text) : List Html.Piece :=
  Html.element "li" [] (Inline.pieces .shown content)

def pieces : Block → List Html.Piece
  | .banner sec => sec.banner
  | .heading level title => Html.element level.tag [] (Inline.pieces .suppressed title)
  | .paragraph line => Html.element "p" [] (Inline.pieces .shown line) ++ transitionChart line
  | .list kind items => Html.element kind.tag [] (items.flatMap item)
  | .table rows => Table.pieces rows
  | .callout kind lines => Callout.pieces kind lines
  | .chart directive => directive.pieces

def section? : Block → Option Section
  | .banner sec => some sec
  | _ => none

end Block

/-- The body of a report: its blocks in order. -/
structure Body where
  blocks : List Block
  deriving Repr, DecidableEq

namespace Body

/-- The sections in the order of their banners. -/
def sections (body : Body) : List Section :=
  body.blocks.filterMap Block.section?

def pieces (body : Body) : List Html.Piece :=
  body.blocks.flatMap Block.pieces

end Body

end EnergyReport.Markup
