import EnergyReport.Text.Alphabetic
import EnergyReport.Text.Basic

namespace EnergyReport.Config

/-! References to environment variables in settings.

A setting with a reference in braces has all its references replaced: `$NAME`, a name in
braces, and a name in braces with a default. In such a setting two dollar signs stand for
one. Other settings stay as they are. -/

inductive Part where
  | verbatim (text : Text)
  | reference (name : Text) (fallback : Option Text)
  deriving Repr, DecidableEq

namespace Expansion

/-- What begins a reference in braces. -/
def opening : Text := ['$', '\x7b']

/-- What stands between a name and its default. -/
def separator : Text := [':', '-']

def isNameChar (c : Char) : Bool :=
  Text.isAlphanumeric c || c = '_'

/-- The reference that the text between two braces makes. Without a name before it the
separator is part of the name. -/
def braced (content : Text) : Part :=
  match Text.cut? separator content with
  | some (c :: name, fallback) => .reference (c :: name) (some fallback)
  | _ => .reference content none

/-- The part at the beginning of a text with a dollar sign, and what follows it. -/
def part? : Text → Option (List Part × Text)
  | '$' :: '\x7b' :: rest =>
      match Text.cut? ['\x7d'] rest with
      | some (content, after) => some ([braced content], after)
      | none => some ([.verbatim opening], rest)
  | '$' :: '$' :: rest => some ([.verbatim ['$']], rest)
  | '$' :: rest =>
      let name := rest.takeWhile isNameChar
      if name.isEmpty then some ([.verbatim ['$']], rest)
      else some ([.reference name none], rest.drop name.length)
  | _ => none

def parts (text : Text) : List Part :=
  Text.substitute (fun _ rest => part? rest) (fun c => .verbatim [c]) text

def name? : Part → Option Text
  | .verbatim _ => none
  | .reference name _ => some name

/-- The text of a part. A variable that is not set gives its default, or its name as an
error; the value of a variable is not looked into. -/
def resolve (environment : Text → Option Text) : Part → Except Text Text
  | .verbatim text => .ok text
  | .reference name fallback =>
      match environment name, fallback with
      | some value, _ => .ok value
      | none, some value => .ok value
      | none, none => .error name

/-- The texts of some parts one after the other; the first error counts. -/
def resolveAll (environment : Text → Option Text) : List Part → Except Text Text
  | [] => .ok []
  | part :: rest => do
      let value ← resolve environment part
      let others ← resolveAll environment rest
      return value ++ others

end Expansion

/-- The setting with its references replaced, or the name of a variable that is not set and
has no default. -/
def expand (environment : Text → Option Text) (text : Text) : Except Text Text :=
  if Text.contains Expansion.opening text then
    Expansion.resolveAll environment (Expansion.parts text)
  else .ok text

def references (text : Text) : List Text :=
  (Expansion.parts text).filterMap Expansion.name?

end EnergyReport.Config
