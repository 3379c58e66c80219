import EnergyReport.Text.Basic

namespace EnergyReport.Html

/-! A document as the sequence of its pieces.

The pieces are kept flat, because inline formatting may open and close in any order.
Text is escaped when it is written and nowhere else, so that each character is
escaped once. -/

/-- An attribute and its value, which is written as it is. -/
abbrev Attribute := String × String

inductive Piece where
  | opening (tag : String) (attributes : List Attribute)
  | closing (tag : String)
  /-- An element without content, as `<br>`. -/
  | void (tag : String) (attributes : List Attribute)
  /-- An element without content that is closed in its own tag, as `<img/>`. -/
  | selfClosed (tag : String) (attributes : List Attribute)
  | text (content : Text)
  /-- Characters written as they are. -/
  | verbatim (content : String)
  deriving Repr, DecidableEq

/-- The form of a character in the content of an element. Quotation marks stay as they
are: text never stands in an attribute. -/
def escapeChar : Char → Text
  | '&' => ['&', 'a', 'm', 'p', ';']
  | '<' => ['&', 'l', 't', ';']
  | '>' => ['&', 'g', 't', ';']
  | c => [c]

/-- The form of a text in the content of an element. -/
def escape (text : Text) : Text :=
  text.flatMap escapeChar

def renderAttribute : Attribute → String
  | (name, value) => " " ++ name ++ "=\"" ++ value ++ "\""

def renderTag (tag : String) (attributes : List Attribute) : String :=
  tag ++ String.join (attributes.map renderAttribute)

def Piece.render : Piece → String
  | .opening tag attributes => "<" ++ renderTag tag attributes ++ ">"
  | .closing tag => "</" ++ tag ++ ">"
  | .void tag attributes => "<" ++ renderTag tag attributes ++ ">"
  | .selfClosed tag attributes => "<" ++ renderTag tag attributes ++ "/>"
  | .text content => String.ofList (escape content)
  | .verbatim content => content

def render (pieces : List Piece) : String :=
  String.join (pieces.map Piece.render)

def element (tag : String) (attributes : List Attribute) (content : List Piece) : List Piece :=
  .opening tag attributes :: content ++ [.closing tag]

def textElement (tag : String) (attributes : List Attribute) (content : Text) : List Piece :=
  element tag attributes [.text content]

/-- A line end between two elements. -/
def newline : Piece := .verbatim "\n"

end EnergyReport.Html
