namespace EnergyReport

/-! Text as the list of its characters, and the ways to take it apart.

A recogniser is a function that looks at the beginning of a text and, where it
succeeds, says what it found; most also return the text that is left. -/

/-- A text is the list of its characters. -/
abbrev Text := List Char

namespace Text

/-- The rest of a text that begins with `expected`. -/
def strip? : Text → Text → Option Text
  | [], text => some text
  | _ :: _, [] => none
  | expected :: more, c :: text => if c = expected then strip? more text else none

/-- The text before the ending `expected`, where it has that ending. -/
def stripEnd? (expected text : Text) : Option Text :=
  (strip? expected.reverse text.reverse).map List.reverse

/-- What `recognise` finds at the first place of the text where it succeeds. -/
def firstMatch (recognise : Text → Option α) : Text → Option α
  | [] => none
  | c :: rest =>
      match recognise (c :: rest) with
      | some found => some found
      | none => firstMatch recognise rest

def cut? (needle : Text) : Text → Option (Text × Text)
  | [] => if needle = [] then some ([], []) else none
  | c :: rest =>
      match strip? needle (c :: rest) with
      | some after => some ([], after)
      | none => (cut? needle rest).map fun (before, after) => (c :: before, after)

def contains (needle text : Text) : Bool :=
  (cut? needle text).isSome

/-- The pieces between the separators; a text without one is a single piece. -/
def splitOn (separator : Char) : Text → List Text
  | [] => [[]]
  | c :: rest =>
      if c = separator then [] :: splitOn separator rest
      else
        match splitOn separator rest with
        | [] => [[c]]
        | first :: others => (c :: first) :: others

def lines (text : Text) : List Text :=
  splitOn '\n' text

/-- Substitutes parts of a list from left to right. Where `recognise` succeeds it gives the
replacement and the rest of the list; elsewhere one element is copied. It also
sees the element just before the place, whether copied or replaced. `skip` counts
the elements of the last replacement that are still to be passed over. -/
def substituteFrom (recognise : Option α → List α → Option (List β × List α)) (copy : α → β) :
    Option α → Nat → List α → List β
  | _, _, [] => []
  | _, skip + 1, a :: rest => substituteFrom recognise copy (some a) skip rest
  | before, 0, a :: rest =>
      match recognise before (a :: rest) with
      | some (replacement, remaining) =>
          replacement ++
            substituteFrom recognise copy (some a) (rest.length - remaining.length) rest
      | none => copy a :: substituteFrom recognise copy (some a) 0 rest

def substitute (recognise : Option α → List α → Option (List β × List α)) (copy : α → β)
    (list : List α) : List β :=
  substituteFrom recognise copy none 0 list

end Text

end EnergyReport
