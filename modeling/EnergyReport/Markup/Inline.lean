import EnergyReport.Html.Piece
import EnergyReport.Text.Case

namespace EnergyReport.Markup

/-! Formatting within a line.

A line becomes a list of atoms: its characters, the beginnings and ends of strong and
emphasized parts, and the badges put in place of priority words. Strong parts are found
first, then emphasized ones, then the priority words; each of these passes looks at the
atoms the one before it has left. So an emphasized part may begin inside a strong one and
end outside of it. -/

inductive Mark where
  | strong
  | emphasis
  deriving Repr, DecidableEq

def Mark.tag : Mark → String
  | .strong => "strong"
  | .emphasis => "em"

inductive Badge where
  | urgent
  | recommended
  | optional
  deriving Repr, DecidableEq

def Badge.label : Badge → String
  | .urgent => "🔴 URGENT"
  | .recommended => "⚠️ RECOMMANDÉ"
  | .optional => "ℹ️ OPTIONNEL"

def Badge.className : Badge → String
  | .urgent => "badge badge-urgent"
  | .recommended => "badge badge-recommended"
  | .optional => "badge badge-optional"

/-- The words of a priority, with their endings; longer ones come first. -/
def Badge.words : Badge → List Text
  | .urgent => ["urgents".toList, "urgent".toList]
  | .recommended =>
      ["recommandées".toList, "recommandés".toList, "recommandes".toList,
        "recommandé".toList, "recommande".toList]
  | .optional =>
      ["optionnelles".toList, "optionnelle".toList, "optionnels".toList, "optionnel".toList]

def Badge.all : List Badge := [.urgent, .recommended, .optional]

/-- Whether priority words are shown as badges. Headings leave them as they are. -/
inductive Badges where
  | shown
  | suppressed
  deriving Repr, DecidableEq

inductive Atom where
  | char (c : Char)
  | opening (mark : Mark)
  | closing (mark : Mark)
  | badge (badge : Badge)
  deriving Repr, DecidableEq

namespace Inline

/-- The shortest text before a double asterisk, and what follows it. The text has at
least one character, which may be an asterisk, and ends within the line. -/
def cutStrong? : Text → Option (Text × Text)
  | [] => none
  | c :: rest =>
      if c = '\n' then none
      else
        match rest with
        | '*' :: '*' :: after => some ([c], after)
        | _ => (cutStrong? rest).map fun (inner, after) => (c :: inner, after)

def strong? : Text → Option (List Atom × Text)
  | '*' :: '*' :: rest =>
      (cutStrong? rest).map fun (inner, after) =>
        (.opening .strong :: inner.map Atom.char ++ [.closing .strong], after)
  | _ => none

def markStrong (text : Text) : List Atom :=
  Text.substitute (fun _ rest => strong? rest) Atom.char text

/-- The fewest atoms before an asterisk, and what follows it. There is at least one,
which may be an asterisk itself, and no newline is among them. -/
def cutEmphasis? : List Atom → Option (List Atom × List Atom)
  | [] => none
  | atom :: rest =>
      if atom = .char '\n' then none
      else
        match rest with
        | .char '*' :: after => some ([atom], after)
        | _ => (cutEmphasis? rest).map fun (inner, after) => (atom :: inner, after)

def emphasis? : List Atom → Option (List Atom × List Atom)
  | .char '*' :: rest =>
      (cutEmphasis? rest).map fun (inner, after) =>
        (.opening .emphasis :: inner ++ [.closing .emphasis], after)
  | _ => none

def markEmphasis (atoms : List Atom) : List Atom :=
  Text.substitute (fun _ rest => emphasis? rest) id atoms

/-- What follows a word in any letter case at the beginning of a list of atoms. -/
def stripWord? : Text → List Atom → Option (List Atom)
  | [], atoms => some atoms
  | letter :: more, .char c :: atoms =>
      if Text.foldCase c = letter then stripWord? more atoms else none
  | _ :: _, _ => none

/-- Whether the atom is a letter, so that a word next to it is part of a longer one. -/
def continuesWord : Option Atom → Bool
  | some (.char c) => Text.isWordLetter c
  | _ => false

/-- The badge whose words include the one at the beginning of a list of atoms, with what
follows that word. -/
def priority? (atoms : List Atom) : Option (Badge × List Atom) :=
  Badge.all.findSome? fun badge =>
    badge.words.findSome? fun word =>
      (stripWord? word atoms).map fun after => (badge, after)

/-- The replacement of a priority word at the beginning of a list of atoms: its badge,
or the word itself where it is part of a longer one. -/
def badge? (before : Option Atom) (atoms : List Atom) : Option (List Atom × List Atom) :=
  (priority? atoms).map fun (badge, after) =>
    if continuesWord before || continuesWord after.head? then
      (atoms.take (atoms.length - after.length), after)
    else ([.badge badge], after)

def showBadges (atoms : List Atom) : List Atom :=
  Text.substitute badge? id atoms

def atoms (badges : Badges) (text : Text) : List Atom :=
  let marked := markEmphasis (markStrong text)
  match badges with
  | .shown => showBadges marked
  | .suppressed => marked

end Inline

def Atom.pieces : Atom → List Html.Piece
  | .char c => [.text [c]]
  | .opening mark => [.opening mark.tag []]
  | .closing mark => [.closing mark.tag]
  | .badge priority =>
      Html.element "span" [("class", priority.className)] [.verbatim priority.label]

def Inline.pieces (badges : Badges) (text : Text) : List Html.Piece :=
  (Inline.atoms badges text).flatMap Atom.pieces

end EnergyReport.Markup
