import EnergyReport.Markup.Directive

namespace EnergyReport.Markup

/-! The kinds of lines of a report. -/

inductive ListKind where
  | bullet
  | ordered
  deriving Repr, DecidableEq

def ListKind.tag : ListKind → String
  | .bullet => "ul"
  | .ordered => "ol"

inductive HeadingLevel where
  | second
  | third
  deriving Repr, DecidableEq

def HeadingLevel.tag : HeadingLevel → String
  | .second => "h2"
  | .third => "h3"

inductive Line where
  /-- Three colons, with what follows them. -/
  | marker (name : Text)
  | title (title : Text)
  | chart (directive : Directive)
  | tableRow
  | heading (level : HeadingLevel) (title : Text)
  | item (kind : ListKind) (content : Text)
  | blank
  | paragraph
  deriving Repr, DecidableEq

namespace Line

/-- The title after exactly `level` number signs and at least one blank. -/
def heading? (level : Nat) (line : Text) : Option Text :=
  match Text.strip? (List.replicate level '#') line with
  | some (c :: rest) =>
      let title := Text.trimStart rest
      if Text.isBlank c && !title.isEmpty then some title else none
  | _ => none

/-- Whether the line begins and ends with a vertical bar. -/
def isTableRow (line : Text) : Bool :=
  line.head? = some '|' && line.getLast? = some '|'

def bullet? (line : Text) : Option Text :=
  match Text.strip? ['-', ' '] line with
  | some content => some content
  | none => Text.strip? ['•', ' '] line

/-- The content of an ordered item, after its number, a point and blanks. -/
def ordered? (line : Text) : Option Text :=
  let afterNumber := line.dropWhile Char.isDigit
  if afterNumber.length = line.length then none
  else
    match afterNumber with
    | '.' :: c :: content => if Text.isBlank c then some (Text.trimStart content) else none
    | _ => none

/-- The kinds that a line can have by its beginning and end, the first one winning. -/
def candidates (line : Text) : List (Option Line) :=
  [(Text.strip? [':', ':', ':'] line).map fun name => .marker (Text.trim name),
    (heading? 1 line).map .title,
    (Directive.ofLine? line).map .chart,
    if isTableRow line then some .tableRow else none,
    (heading? 3 line).map (.heading .third),
    (heading? 2 line).map (.heading .second),
    (bullet? line).map (.item .bullet),
    (ordered? line).map (.item .ordered),
    if line.isEmpty then some .blank else none]

/-- The kind of a line without blanks at its ends. -/
def classify (line : Text) : Line :=
  ((candidates line).findSome? id).getD .paragraph

end Line

end EnergyReport.Markup
