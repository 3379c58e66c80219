import EnergyReport.Text.Basic
import EnergyReport.Text.Digit

namespace EnergyReport.Toml

/-! Texts between quotation marks. Double quotation marks allow escapes, single ones take
the text as it is; three of either kind let it go over several lines. -/

/-- Characters that stand in no text: controls other than the tab. -/
def isControl (c : Char) : Bool :=
  (c.toNat < 0x20 && c ≠ '\t') || c.toNat = 0x7F

/-- The text up to the closing mark on the same line, and what follows the mark. Where
there are escapes, an escaped mark does not close the text. -/
def cutLine (mark : Char) (escapes : Bool) : Text → Option (Text × Text)
  | [] => none
  | '\\' :: c :: rest =>
      if escapes then
        if isControl c then none
        else (cutLine mark escapes rest).map fun (body, after) => ('\\' :: c :: body, after)
      else if c = mark then some (['\\'], rest)
      else if isControl c then none
      else (cutLine mark escapes rest).map fun (body, after) => ('\\' :: c :: body, after)
  | c :: rest =>
      if c = mark then some ([], rest)
      else if isControl c then none
      else (cutLine mark escapes rest).map fun (body, after) => (c :: body, after)

/-- The text up to three closing marks, and what follows them. Up to two marks directly
before these belong to the text. -/
def cutLines (mark : Char) (escapes : Bool) : Text → Option (Text × Text)
  | [] => none
  | '\\' :: c :: rest =>
      if escapes then
        if isControl c && c ≠ '\n' && c ≠ '\r' then none
        else (cutLines mark escapes rest).map fun (body, after) => ('\\' :: c :: body, after)
      else (cutLines mark escapes (c :: rest)).map fun (body, after) => ('\\' :: body, after)
  | '\r' :: '\n' :: rest =>
      (cutLines mark escapes rest).map fun (body, after) => ('\n' :: body, after)
  | c :: rest =>
      if c = mark then
        match rest with
        | c₂ :: c₃ :: after =>
            if c₂ = mark && c₃ = mark then
              let extra := (after.take 2).takeWhile (· = mark)
              some (extra, after.drop extra.length)
            else (cutLines mark escapes rest).map fun (body, after) => (c :: body, after)
        | _ => none
      else if isControl c && c ≠ '\n' then none
      else (cutLines mark escapes rest).map fun (body, after) => (c :: body, after)

/-- The character with a code point, unless it is a surrogate or out of range. -/
def charOf? (code : Nat) : Option Char :=
  if code < 0xD800 || (0xDFFF < code && code < 0x110000) then some (Char.ofNat code) else none

def escaped? : Char → Option Char
  | '"' => some '"'
  | '\\' => some '\\'
  | 'b' => some '\x08'
  | 'e' => some '\x1b'
  | 'f' => some '\x0c'
  | 'n' => some '\n'
  | 'r' => some '\r'
  | 't' => some '\t'
  | _ => none

def isLineBlank (c : Char) : Bool := c = ' ' || c = '\t'

def endsLine (text : Text) : Bool :=
  match text.dropWhile isLineBlank with
  | '\n' :: _ => true
  | '\r' :: '\n' :: _ => true
  | _ => false

/-- Resolves the escapes of a text. A backslash at the end of a line drops all blanks and
line ends up to the next other character; `dropping` says that this goes on. -/
def unescape (dropping : Bool) : Text → Option Text
  | [] => some []
  | '\\' :: 'x' :: a :: b :: rest => do
      let c ← (Text.hexadecimal? [a, b]).bind charOf?
      return c :: (← unescape false rest)
  | '\\' :: 'u' :: a :: b :: c :: d :: rest => do
      let c ← (Text.hexadecimal? [a, b, c, d]).bind charOf?
      return c :: (← unescape false rest)
  | '\\' :: 'U' :: a :: b :: c :: d :: e :: f :: g :: h :: rest => do
      let c ← (Text.hexadecimal? [a, b, c, d, e, f, g, h]).bind charOf?
      return c :: (← unescape false rest)
  | '\\' :: c :: rest => do
      if endsLine (c :: rest) then unescape true rest
      else
        let meant ← escaped? c
        return meant :: (← unescape false rest)
  | c :: rest => do
      if c = '\\' then none
      if dropping && (isLineBlank c || c = '\n' || c = '\r') then unescape true rest
      else return c :: (← unescape false rest)

/-- The text without a line end at its beginning. -/
def dropFirstLineEnd : Text → Text
  | '\n' :: rest => rest
  | '\r' :: '\n' :: rest => rest
  | text => text

def readLine (mark : Char) (text : Text) : Option (Text × Text) := do
  let escapes := mark = '"'
  let (body, rest) ← cutLine mark escapes text
  let value ← if escapes then unescape false body else some body
  return (value, rest)

def readLines (mark : Char) (text : Text) : Option (Text × Text) := do
  let escapes := mark = '"'
  let (body, rest) ← cutLines mark escapes (dropFirstLineEnd text)
  let value ← if escapes then unescape false body else some body
  return (value, rest)

end EnergyReport.Toml
