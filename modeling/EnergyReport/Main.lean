import EnergyReport.Command.Survey
import Std.Time

/-! The program: it looks at what the request needs, lets the request decide, and does as it
says. -/

namespace EnergyReport.Program

open Command

/-- The reason that an error of the system gives. -/
def fileError : IO.Error → FileError
  | .noFileOrDirectory .. => .notFound
  | .inappropriateType _ code _ => if code = 21 then .isADirectory else .notADirectory
  | .invalidArgument _ code _ => if code = 22 then .zeroInName else .nameTooLong
  | .permissionDenied .. => .denied
  | error => .other (toString error)

/-- Looks at the place to which a path leads. Where the content does not matter it is not
read. -/
def look (wanted : Bool) (path : Path) : IO (Except FileError Entry) := do
  if path.isEmpty then
    return .error .notFound
  if '\x00' ∈ path then
    return .error .zeroInName
  try
    let place := (← IO.currentDir) / String.ofList path
    match (← place.metadata).type with
    | .dir => return .ok .directory
    | _ =>
        if wanted then
          return .ok (.file (← IO.FS.readBinFile place))
        else
          return .ok (.file .empty)
  catch error =>
    return .error (fileError error)

def lookAll (wanted : Bool) (paths : List Path) : IO Sightings :=
  paths.mapM fun path => do
    return (path, ← look wanted path)

def setVariables (names : List Text) : IO (List (Text × Text)) := do
  let found ← names.mapM fun name => do
    return (← IO.getEnv (String.ofList name)).map fun value => (name, value.toList)
  return found.filterMap id

def today : IO Document.Date := do
  let date ← Std.Time.PlainDate.now
  let month := (Document.Month.ofNumber? date.month.toNat).getD .january
  return ⟨date.year.toInt, month, date.day.toNat⟩

/-- What a request needs to know of its surroundings. -/
def surroundings (request : Request) : IO World := do
  let workingDirectory := (← IO.currentDir).toString.toList
  let settings ← lookAll true (request.settingsFiles workingDirectory)
  let environment ← setVariables (request.variableNames settings.files workingDirectory)
  let world : World :=
    ⟨settings.files, workingDirectory, seenVariables environment, ← today⟩
  let sources ← lookAll true ((request.defaultCover? world).toList ++ request.sources)
  let targets ← lookAll false request.targets
  return { world with files := (settings ++ sources ++ targets : Sightings).files }

/-- Writes the file of an outcome; if that fails after all, the outcome is another one. -/
def write (outcome : Outcome) : IO Outcome := do
  match outcome.written with
  | none => return outcome
  | some (path, content) =>
      try
        IO.FS.writeBinFile (String.ofList path) content
        return outcome
      catch error =>
        return outcome.unwritten (fileError error)

def run (arguments : List Text) : IO UInt32 := do
  let request := readArguments arguments
  let outcome ← write (request.run (← surroundings request))
  (← IO.getStderr).putStr outcome.stderr
  let stdout ← IO.getStdout
  stdout.write outcome.stdout
  stdout.flush
  return UInt32.ofNat outcome.code

end EnergyReport.Program

def main (arguments : List String) : IO UInt32 :=
  EnergyReport.Program.run (arguments.map String.toList)
