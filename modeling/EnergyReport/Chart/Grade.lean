import EnergyReport.Text.Basic

namespace EnergyReport.Chart

/-! The grades of the energy label, from A, the best, to G. -/

inductive Grade where
  | a | b | c | d | e | f | g
  deriving Repr, DecidableEq

namespace Grade

def all : List Grade := [.a, .b, .c, .d, .e, .f, .g]

/-- The place on the scale, counted from zero for the best grade. -/
def index : Grade → Nat
  | .a => 0
  | .b => 1
  | .c => 2
  | .d => 3
  | .e => 4
  | .f => 5
  | .g => 6

def letter : Grade → Char
  | .a => 'A'
  | .b => 'B'
  | .c => 'C'
  | .d => 'D'
  | .e => 'E'
  | .f => 'F'
  | .g => 'G'

/-- The grade that a letter names, in either case. -/
def ofLetter? (symbol : Char) : Option Grade :=
  all.find? fun grade => grade.letter = symbol.toUpper

/-- The grade that a text names; the text is a single letter. -/
def ofText? : Text → Option Grade
  | [symbol] => ofLetter? symbol
  | _ => none

/-- Whether the character names a grade, in either case. -/
def isLetter (symbol : Char) : Bool :=
  ('A' ≤ symbol && symbol ≤ 'G') || ('a' ≤ symbol && symbol ≤ 'g')

def leadingLetter? : Text → Option Char
  | symbol :: _ => if isLetter symbol then some symbol else none
  | [] => none

def color : Grade → String
  | .a => "#319834"
  | .b => "#34a13c"
  | .c => "#c9d200"
  | .d => "#f9ef09"
  | .e => "#f5b50a"
  | .f => "#f36c23"
  | .g => "#e2001a"

def textColor : Grade → String
  | .a | .b | .f | .g => "#fff"
  | .c | .d | .e => "#333"

def isBetterThan (first second : Grade) : Bool :=
  first.index < second.index

end Grade

end EnergyReport.Chart
