import EnergyReport.Toml.Basic
import EnergyReport.Toml.Plain
import EnergyReport.Toml.Quoted

namespace EnergyReport.Toml

/-! Reading a TOML document. -/

/-- Drops blanks, line ends and comments; none where a comment holds a control.
`inComment` says that the text begins inside a comment. -/
def skipSpace (inComment : Bool) : Text → Option Text
  | [] => some []
  | '\r' :: '\n' :: rest => skipSpace false rest
  | c :: rest =>
      if c = '\n' then skipSpace false rest
      else if inComment then if isControl c then none else skipSpace true rest
      else if isLineBlank c then skipSpace false rest
      else if c = '#' then skipSpace true rest
      else some (c :: rest)

/-- Drops the rest of a line, on which only blanks and a comment may stand. -/
def finishLine (inComment : Bool) : Text → Option Text
  | [] => some []
  | '\r' :: '\n' :: rest => some rest
  | c :: rest =>
      if c = '\n' then some rest
      else if inComment then if isControl c then none else finishLine true rest
      else if isLineBlank c then finishLine false rest
      else if c = '#' then finishLine true rest
      else none

/-- The characters of a key without quotation marks. -/
def isKeyChar (c : Char) : Bool :=
  c.isAlphanum || c = '_' || c = '-'

def readSimpleKey : Text → Option (Text × Text)
  | '"' :: rest => readLine '"' rest
  | '\'' :: rest => readLine '\'' rest
  | text =>
      let key := text.takeWhile isKeyChar
      if key.isEmpty then none else some (key, text.drop key.length)

/-- Reads a key whose parts stand between points. `fuel` bounds their number. -/
def readKey : (fuel : Nat) → Text → Option (List Text × Text)
  | 0, _ => none
  | fuel + 1, text => do
      let (first, rest) ← readSimpleKey (text.dropWhile isLineBlank)
      match rest.dropWhile isLineBlank with
      | '.' :: more =>
          let (path, after) ← readKey fuel more
          return (first :: path, after)
      | after => return ([first], after)

def endsWord (c : Char) : Bool :=
  c = ' ' || c = '\t' || c = '\n' || c = '\r' || c = ',' || c = ']' || c = '\x7d' || c = '#'

/-- Reads a value without quotation marks. A date may have a time after a single blank. -/
def readPlain (text : Text) : Option (Toml × Text) :=
  let word := text.takeWhile fun c => !endsWord c
  let rest := text.drop word.length
  let longer :=
    match rest with
    | ' ' :: more => word ++ ' ' :: more.takeWhile fun c => !endsWord c
    | _ => word
  if isDateTime longer then some (.plain, text.drop longer.length)
  else if isPlain word then some (.plain, rest)
  else none

/-- How far arrays and tables in braces may be nested. -/
def nestingLimit : Nat := 80

mutual

/-- Reads a value. `depth` is how far arrays and tables may still be nested; `fuel` bounds
the steps of the reader. -/
def readValue : (fuel depth : Nat) → Text → Option (Toml × Text)
  | 0, _, _ => none
  | fuel + 1, depth, text =>
      match text with
      | '"' :: '"' :: '"' :: rest =>
          (readLines '"' rest).map fun (value, after) => (.string value, after)
      | '\'' :: '\'' :: '\'' :: rest =>
          (readLines '\'' rest).map fun (value, after) => (.string value, after)
      | '"' :: rest => (readLine '"' rest).map fun (value, after) => (.string value, after)
      | '\'' :: rest => (readLine '\'' rest).map fun (value, after) => (.string value, after)
      | '[' :: rest =>
          if depth = 0 then none
          else (readItems fuel (depth - 1) rest).map fun (items, after) => (.array items, after)
      | '\x7b' :: rest =>
          if depth = 0 then none
          else
            (readEntries fuel (depth - 1) [] rest).map fun (members, after) =>
              (.table .inline members, after)
      | _ => readPlain text

def readItems : (fuel depth : Nat) → Text → Option (List Toml × Text)
  | 0, _, _ => none
  | fuel + 1, depth, text => do
      match ← skipSpace false text with
      | ']' :: after => return ([], after)
      | start =>
          let (item, rest) ← readValue fuel depth start
          match ← skipSpace false rest with
          | ']' :: after => return ([item], after)
          | ',' :: more =>
              let (items, after) ← readItems fuel depth more
              return (item :: items, after)
          | _ => none

/-- Reads the entries of a table up to its closing brace; `members` are those read
before. -/
def readEntries : (fuel depth : Nat) → Members → Text → Option (Members × Text)
  | 0, _, _, _ => none
  | fuel + 1, depth, members, text => do
      match ← skipSpace false text with
      | '\x7d' :: after => return (members, after)
      | start =>
          let (path, afterKey) ← readKey (start.length + 1) start
          let valueText ← Text.strip? ['='] afterKey
          let (value, rest) ← readValue fuel depth (valueText.dropWhile isLineBlank)
          let extended ← assign path value members
          match ← skipSpace false rest with
          | '\x7d' :: after => return (extended, after)
          | ',' :: more => readEntries fuel depth extended more
          | _ => none

end

def readStatement (text : Text) : Option (Statement × Text) :=
  match text with
  | '[' :: '[' :: rest => do
      let (path, after) ← readKey (rest.length + 1) rest
      let after ← Text.strip? [']', ']'] after
      return (.element path, ← finishLine false after)
  | '[' :: rest => do
      let (path, after) ← readKey (rest.length + 1) rest
      let after ← Text.strip? [']'] after
      return (.table path, ← finishLine false after)
  | _ => do
      let (path, after) ← readKey (text.length + 1) text
      let after ← Text.strip? ['='] after
      let (value, after) ←
        readValue (2 * text.length + 2) nestingLimit (after.dropWhile isLineBlank)
      return (.assignment path value, ← finishLine false after)

/-- Reads the statements of a document. `fuel` bounds their number. -/
def readStatements : (fuel : Nat) → Text → Option (List Statement)
  | 0, _ => none
  | fuel + 1, text => do
      match ← skipSpace false text with
      | [] => return []
      | start =>
          let (statement, rest) ← readStatement start
          return statement :: (← readStatements fuel rest)

/-- The root table of a document, which may begin with a byte order mark. -/
def read (text : Text) : Option Members := do
  let content := (Text.strip? ['\uFEFF'] text).getD text
  let statements ← readStatements (content.length + 1) content
  build statements

end EnergyReport.Toml
