import EnergyReport.Text.Basic

namespace EnergyReport

/-! Values of a TOML document, and the rules by which its statements build tables. -/

/-- How a table came to be. This decides what later statements may do with it. -/
inductive Toml.Origin where
  /-- Its own header; it is opened once. -/
  | header
  /-- The header of a table within it; its own header may still come. -/
  | implied
  /-- A key with points; only such keys add to it. -/
  | dotted
  /-- Braces; nothing is added to it. -/
  | inline
  deriving Repr, DecidableEq

inductive Toml where
  | string (value : Text)
  /-- A number, a truth value, a date or a time, all of which stand for themselves. -/
  | plain
  | array (items : List Toml)
  | table (origin : Toml.Origin) (members : List (Text × Toml))
  /-- An array whose elements are tables with headers of their own. -/
  | tables (elements : List (List (Text × Toml)))

namespace Toml

abbrev Members := List (Text × Toml)

def member? (key : Text) (members : Members) : Option Toml :=
  (members.find? (·.1 = key)).map (·.2)

/-- Gives a key a value: in place where the key is present, else at the end. -/
def setMember (key : Text) (value : Toml) : Members → Members
  | [] => [(key, value)]
  | (present, old) :: rest =>
      if present = key then (key, value) :: rest else (present, old) :: setMember key value rest

def addMember (key : Text) (value : Toml) (members : Members) : Option Members :=
  if (member? key members).isSome then none else some (setMember key value members)

/-- Changes the table at a path of a header, making the tables on the way. An array of
tables stands for its last element. -/
def changeAt : List Text → (Members → Option Members) → Members → Option Members
  | [], change, members => change members
  | key :: path, change, members =>
      match member? key members with
      | none => do
          let inner ← changeAt path change []
          return setMember key (.table .implied inner) members
      | some (.table origin inner) => do
          if origin = .inline then none
          let changed ← changeAt path change inner
          return setMember key (.table origin changed) members
      | some (.tables elements) => do
          let last ← elements.getLast?
          let changed ← changeAt path change last
          return setMember key (.tables (elements.dropLast ++ [changed])) members
      | some _ => none

/-- Adds a value under a key with points. A table on the way is new, or comes from such a
key itself; an implied one may only lead further down. -/
def assign : List Text → Toml → Members → Option Members
  | [], _, _ => none
  | [key], value, members => addMember key value members
  | key :: path, value, members =>
      match member? key members with
      | none => do
          let inner ← assign path value []
          return setMember key (.table .dotted inner) members
      | some (.table .dotted inner) => do
          let changed ← assign path value inner
          return setMember key (.table .dotted changed) members
      | some (.table .implied inner) => do
          if path.length = 1 then none
          let changed ← assign path value inner
          return setMember key (.table .implied changed) members
      | some _ => none

def openTable (key : Text) (members : Members) : Option Members :=
  match member? key members with
  | none => some (setMember key (.table .header []) members)
  | some (.table .implied inner) => some (setMember key (.table .header inner) members)
  | some _ => none

def openElement (key : Text) (members : Members) : Option Members :=
  match member? key members with
  | none => some (setMember key (.tables [[]]) members)
  | some (.tables elements) => some (setMember key (.tables (elements ++ [[]])) members)
  | some _ => none

inductive Statement where
  | table (path : List Text)
  | element (path : List Text)
  | assignment (path : List Text) (value : Toml)

/-- Carries out a statement. `current` is the path of the table opened last. -/
def Statement.run (current : List Text) (root : Members) :
    Statement → Option (List Text × Members)
  | .table path => do
      let key ← path.getLast?
      let changed ← changeAt path.dropLast (openTable key) root
      return (path, changed)
  | .element path => do
      let key ← path.getLast?
      let changed ← changeAt path.dropLast (openElement key) root
      return (path, changed)
  | .assignment path value => do
      let changed ← changeAt current (assign path value) root
      return (current, changed)

def runAll (current : List Text) (root : Members) : List Statement → Option Members
  | [] => some root
  | statement :: rest => do
      let (opened, changed) ← statement.run current root
      runAll opened changed rest

def build (statements : List Statement) : Option Members :=
  runAll [] [] statements

end Toml

end EnergyReport
