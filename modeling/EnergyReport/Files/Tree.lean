import EnergyReport.Files.Basic

namespace EnergyReport

/-! A tree of files and directories, and the paths through it. -/

/-- A file with its content, or a directory with its named entries. -/
inductive FileTree where
  | file (content : ByteArray)
  | directory (entries : List (Text × FileTree))

namespace FileTree

def longestName : Nat := 255

def longestPath : Nat := 4095

def child? (name : Text) : FileTree → Option FileTree
  | .file _ => none
  | .directory entries => (entries.find? (·.1 = name)).map (·.2)

/-- Follows the parts of a path from a node on, given with the nodes above it. Every part,
idle ones included, needs a directory to start from. Above the root is the root. -/
def follow (node : FileTree) (above : List FileTree) : List Text → Except FileError FileTree
  | [] => .ok node
  | part :: more =>
      match node with
      | .file _ => .error .notADirectory
      | .directory _ =>
          if Path.isIdle part then follow node above more
          else if part = ['.', '.'] then
            match above with
            | parent :: further => follow parent further more
            | [] => follow node [] more
          else if longestName < (String.ofList part).utf8ByteSize then .error .nameTooLong
          else
            match child? part node with
            | some next => follow next (node :: above) more
            | none => .error .notFound

/-- The node that a path leads to. -/
def node (root : FileTree) (workingDirectory path : Path) : Except FileError FileTree :=
  if '\x00' ∈ path then .error .zeroInName
  else if path.isEmpty then .error .notFound
  else if longestPath < (String.ofList path).utf8ByteSize then .error .nameTooLong
  else follow root [] (Path.parts (Path.join workingDirectory path))

/-- The files of a tree, with relative paths seen from a working directory. -/
def files (root : FileTree) (workingDirectory : Path) : Files where
  entry path :=
    match node root workingDirectory path with
    | .ok (.file content) => .ok (.file content)
    | .ok (.directory _) => .ok .directory
    | .error error => .error error

/-- Puts a node at a path of names, making the directories on the way. -/
def put (node : FileTree) : List Text → FileTree → FileTree
  | [], _ => node
  | name :: more, tree =>
      let entries :=
        match tree with
        | .directory entries => entries
        | .file _ => []
      let inner := (child? name (.directory entries)).getD (.directory [])
      .directory (entries.filter (·.1 ≠ name) ++ [(name, put node more inner)])

end FileTree

end EnergyReport
