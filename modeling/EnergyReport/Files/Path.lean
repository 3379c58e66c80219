import EnergyReport.Text.Basic

namespace EnergyReport

/-! Paths of files, in the form in which they are written. -/

/-- A path; its parts stand between slashes. -/
abbrev Path := Text

namespace Path

def isAbsolute (path : Path) : Bool :=
  path.head? = some '/'

def parts (path : Path) : List Text :=
  Text.splitOn '/' path

def ofParts (parts : List Text) : Path :=
  List.intercalate ['/'] parts

/-- Whether a part leads nowhere: it is empty or a single point. -/
def isIdle (part : Text) : Bool :=
  part.isEmpty || part = ['.']

/-- Drops idle parts from the end. The first part of a path stays: it says whether the
path is absolute. The parts come in reverse order. -/
def dropIdle : List Text → List Text
  | [] => []
  | [first] => [first]
  | part :: more => if isIdle part then dropIdle more else part :: more

/-- The last part of a path that is not idle, and the parts before it in reverse order.
The root and the empty path have none. -/
def lastPart? (path : Path) : Option (Text × List Text) :=
  match dropIdle (parts path).reverse with
  | [] => none
  | last :: before => if last.isEmpty then none else some (last, before)

/-- The name of the file or directory that a path leads to. A path that ends by going up,
or that is a single point, names none. -/
def fileName? (path : Path) : Option Text :=
  match lastPart? path with
  | some (last, _) => if last = ['.'] || last = ['.', '.'] then none else some last
  | none => none

def parent? (path : Path) : Option Path :=
  match lastPart? path with
  | none => none
  | some (_, before) =>
      match dropIdle before with
      | [] => some []
      | [first] => some (if first.isEmpty then ['/'] else first)
      | more => some (ofParts more.reverse)

/-- The part of the file name after its last point. A name whose only point comes first
has no extension. -/
def extension? (path : Path) : Option Text :=
  match fileName? path with
  | none => none
  | some name =>
      let extension := (name.reverse.takeWhile (· ≠ '.')).reverse
      let stem := name.take (name.length - extension.length - 1)
      if extension.length = name.length || stem.isEmpty then none else some extension

/-- The path `relative` as seen from `base`; an absolute path stays as it is. -/
def join (base relative : Path) : Path :=
  if isAbsolute relative then relative
  else if base.isEmpty || base.getLast? = some '/' then base ++ relative
  else base ++ '/' :: relative

/-- The path and the paths of the directories above it, nearest first. `fuel` bounds their
number. -/
def ancestorsFrom : (fuel : Nat) → Path → List Path
  | 0, path => [path]
  | fuel + 1, path =>
      match parent? path with
      | some above => path :: ancestorsFrom fuel above
      | none => [path]

/-- The path and the paths of the directories above it, nearest first. A path has fewer of
them than characters. -/
def ancestors (path : Path) : List Path :=
  ancestorsFrom path.length path

end Path

end EnergyReport
