import EnergyReport.Json.Number

namespace EnergyReport.Json

/-! Reading a JSON text.

`read` accepts one value with blanks around it. Values may be nested 127 deep. A key
that occurs twice in an object keeps its first place and its last value. -/

def skipBlanks (text : Text) : Text :=
  text.dropWhile fun c => c = ' ' || c = '\n' || c = '\t' || c = '\r'

/-- The text up to the closing quotation mark, escapes as they are written, and what
follows the mark. -/
def cutString : Text → Option (Text × Text)
  | [] => none
  | '"' :: rest => some ([], rest)
  | '\\' :: c :: rest => (cutString rest).map fun (body, after) => ('\\' :: c :: body, after)
  | c :: rest => (cutString rest).map fun (body, after) => (c :: body, after)

/-- An element of a string: a character, or a unit of sixteen bits. -/
inductive Element where
  | char (c : Char)
  | unit (value : Nat)

def escaped? : Char → Option Char
  | '"' => some '"'
  | '\\' => some '\\'
  | '/' => some '/'
  | 'b' => some '\x08'
  | 'f' => some '\x0c'
  | 'n' => some '\n'
  | 'r' => some '\r'
  | 't' => some '\t'
  | _ => none

/-- Resolves the escapes of a string. Controls must be escaped. -/
def unescape : Text → Option (List Element)
  | [] => some []
  | '\\' :: 'u' :: a :: b :: c :: d :: rest => do
      let value ← Text.hexadecimal? [a, b, c, d]
      return .unit value :: (← unescape rest)
  | '\\' :: c :: rest => do
      let meant ← escaped? c
      return .char meant :: (← unescape rest)
  | c :: rest => do
      if c = '\\' || c.toNat < 0x20 then none
      return .char c :: (← unescape rest)

def isHighSurrogate (unit : Nat) : Bool := 0xD800 ≤ unit && unit < 0xDC00

def isLowSurrogate (unit : Nat) : Bool := 0xDC00 ≤ unit && unit < 0xE000

/-- The characters of a string: two surrogates next to each other form one, and none
stands alone. -/
def joinElements : List Element → Option Text
  | [] => some []
  | .char c :: rest => (joinElements rest).map (c :: ·)
  | .unit high :: .unit low :: rest =>
      if isHighSurrogate high then
        if isLowSurrogate low then
          let code := 0x10000 + (high - 0xD800) * 0x400 + (low - 0xDC00)
          (joinElements rest).map (Char.ofNat code :: ·)
        else none
      else if isLowSurrogate high then none
      else (joinElements (.unit low :: rest)).map (Char.ofNat high :: ·)
  | .unit value :: rest =>
      if isHighSurrogate value || isLowSurrogate value then none
      else (joinElements rest).map (Char.ofNat value :: ·)

def readString (text : Text) : Option (Text × Text) := do
  let (body, rest) ← cutString text
  let elements ← unescape body
  let value ← joinElements elements
  return (value, rest)

mutual

/-- Reads a value. `depth` is how far arrays and objects may still be nested; `fuel`
bounds the steps of the reader. -/
def readValue : (fuel depth : Nat) → Text → Option (Json × Text)
  | 0, _, _ => none
  | fuel + 1, depth, text =>
      match skipBlanks text with
      | '"' :: rest => (readString rest).map fun (value, after) => (.string value, after)
      | '[' :: rest =>
          if depth = 0 then none
          else
            match skipBlanks rest with
            | ']' :: after => some (.array [], after)
            | more =>
                (readItems fuel (depth - 1) more).map fun (items, after) =>
                  (.array items, after)
      | '\x7b' :: rest =>
          if depth = 0 then none
          else
            match skipBlanks rest with
            | '\x7d' :: after => some (.object [], after)
            | more =>
                (readMembers fuel (depth - 1) [] more).map fun (members, after) =>
                  (.object members, after)
      | 'n' :: 'u' :: 'l' :: 'l' :: rest => some (.null, rest)
      | 't' :: 'r' :: 'u' :: 'e' :: rest => some (.bool true, rest)
      | 'f' :: 'a' :: 'l' :: 's' :: 'e' :: rest => some (.bool false, rest)
      | '-' :: rest => (readNumber true rest).map fun (value, after) => (.number value, after)
      | more => (readNumber false more).map fun (value, after) => (.number value, after)

def readItems : (fuel depth : Nat) → Text → Option (List Json × Text)
  | 0, _, _ => none
  | fuel + 1, depth, text =>
      match readValue fuel depth text with
      | none => none
      | some (item, rest) =>
          match skipBlanks rest with
          | ']' :: after => some ([item], after)
          | ',' :: more =>
              (readItems fuel depth more).map fun (items, after) => (item :: items, after)
          | _ => none

/-- Reads the members of an object up to its closing brace; `members` are those read
before. -/
def readMembers : (fuel depth : Nat) → List (Text × Json) → Text →
    Option (List (Text × Json) × Text)
  | 0, _, _, _ => none
  | fuel + 1, depth, members, text =>
      match skipBlanks text with
      | '"' :: keyText =>
          match readString keyText with
          | none => none
          | some (key, afterKey) =>
              match skipBlanks afterKey with
              | ':' :: valueText =>
                  match readValue fuel depth valueText with
                  | none => none
                  | some (value, rest) =>
                      let extended := insertMember key value members
                      match skipBlanks rest with
                      | '\x7d' :: after => some (extended, after)
                      | ',' :: more => readMembers fuel depth extended more
                      | _ => none
              | _ => none
      | _ => none

end

/-- How far arrays and objects may be nested. -/
def nestingLimit : Nat := 127

/-- Reads a text that holds one value. Every second step at least takes a character, so
the steps allowed are enough for every text. -/
def read (text : Text) : Option Json :=
  match readValue (2 * text.length + 2) nestingLimit text with
  | some (value, rest) => if (skipBlanks rest).isEmpty then some value else none
  | none => none

end EnergyReport.Json
