import EnergyReport.Files.Path
import EnergyReport.Text.Utf8

namespace EnergyReport

/-! Files as a program sees them: what each path leads to. -/

inductive FileError where
  | notFound
  | notADirectory
  | isADirectory
  | nameTooLong
  | zeroInName
  | notUtf8
  | denied
  /-- Any other reason, in the words of the system. -/
  | other (description : String)
  deriving Repr, DecidableEq

def FileError.message : FileError → String
  | .notFound => "No such file or directory (os error 2)"
  | .notADirectory => "Not a directory (os error 20)"
  | .isADirectory => "Is a directory (os error 21)"
  | .nameTooLong => "File name too long (os error 36)"
  | .zeroInName => "file name contained an unexpected NUL byte"
  | .notUtf8 => "stream did not contain valid UTF-8"
  | .denied => "Permission denied (os error 13)"
  | .other description => description

inductive Entry where
  | file (content : ByteArray)
  | directory

/-- What each path leads to, or why it leads nowhere. -/
structure Files where
  entry : Path → Except FileError Entry

namespace Files

def exists? (files : Files) (path : Path) : Bool :=
  match files.entry path with
  | .ok _ => true
  | .error _ => false

def read (files : Files) (path : Path) : Except FileError ByteArray :=
  match files.entry path with
  | .ok (.file content) => .ok content
  | .ok .directory => .error .isADirectory
  | .error error => .error error

def readText (files : Files) (path : Path) : Except FileError String :=
  match files.read path with
  | .ok content =>
      match Text.decodeUtf8 content with
      | .ok text => .ok text
      | .error _ => .error .notUtf8
  | .error error => .error error

/-- The name after the last slash of a path; it is empty where the path ends in one. -/
def nameAfterSlash (path : Path) : Text :=
  (path.reverse.takeWhile (· ≠ '/')).reverse

/-- The directory in which a file at a path stands, as the path names it. -/
def folderOf (path : Path) : Path :=
  let name := nameAfterSlash path
  let folder :=
    if name.isEmpty then (Path.parent? path).getD ['/'] else path.take (path.length - name.length)
  if folder.isEmpty then ['.'] else folder

/-- Why a file cannot be written at a path, if so. The directory above it must be there;
the file itself need not. -/
def writeError? (files : Files) (path : Path) : Option FileError :=
  if path.isEmpty then some .notFound
  else
    match files.entry (folderOf path) with
    | .error error => some error
    | .ok (.file _) => some .notADirectory
    | .ok .directory =>
        if (nameAfterSlash path).isEmpty then some .isADirectory
        else
          match files.entry path with
          | .ok (.file _) => none
          | .ok .directory => some .isADirectory
          | .error .notFound => none
          | .error error => some error

end Files

end EnergyReport
