import EnergyReport.Markup.Inline
import EnergyReport.Text.Blank

namespace EnergyReport.Markup.Table

/-! Tables whose cells stand between vertical bars. -/

/-- The cells of a row: the trimmed texts between two bars that follow each other. What
stands before the first bar and after the last one belongs to no cell. -/
def cells (line : Text) : List Text :=
  ((Text.splitOn '|' line).drop 1).dropLast.map Text.trim

def isAlignment (c : Char) : Bool :=
  Text.isBlank c || c = '-' || c = ':' || c = '|'

/-- Whether a row gives alignments only: between its outer bars there is at least one
character, and all are blanks, hyphens, colons or bars. -/
def isSeparator (line : Text) : Bool :=
  match Text.trim line with
  | '|' :: rest =>
      match rest.reverse with
      | '|' :: inner => !inner.isEmpty && inner.all isAlignment
      | _ => false
  | _ => false

def row (tag : String) (line : Text) : List Html.Piece :=
  Html.element "tr" []
    ((cells line).flatMap fun cell => Html.element tag [] (Inline.pieces .shown cell))

/-- The table of some lines. The first is the header, even where it looks like a
separator; later separators are left out. Without lines there is no table. -/
def pieces : List Text → List Html.Piece
  | [] => []
  | header :: body =>
      Html.element "table" []
        (Html.element "thead" [] (row "th" header) ++
          Html.element "tbody" []
            ((body.filter fun line => !isSeparator line).flatMap (row "td")))

end EnergyReport.Markup.Table
