import EnergyReport.Color.Rgb
import EnergyReport.Config.Expansion
import EnergyReport.Files.Basic
import EnergyReport.Toml.Reader

namespace EnergyReport.Config

/-! The settings of a report.

They come from four layers: built-in values, a file, references to the environment in
that file, and the command line. The file is the one that is named, or the nearest one with
the usual name in the working directory and those above it. -/

structure Settings where
  primaryColor : Text
  secondaryColor : Text
  defaultCover : Path
  /-- The file that the settings come from. -/
  source : Option Path
  deriving Repr, DecidableEq

structure Overrides where
  primaryColor : Option Text
  secondaryColor : Option Text
  defaultCover : Option Path
  deriving Repr, DecidableEq

inductive Field where
  | primaryColor
  | secondaryColor
  | defaultCover
  deriving Repr, DecidableEq

def Field.name : Field → String
  | .primaryColor => "theme.primary_color"
  | .secondaryColor => "theme.secondary_color"
  | .defaultCover => "assets.default_cover"

inductive LoadError where
  | notFound (path : Path)
  | unreadable (reason : FileError)
  /-- The file is not TOML, or a field does not hold a text. -/
  | malformed
  | invalidColor (field : Field) (error : InvalidColor)
  /-- A field refers to a variable that is not set. -/
  | unset (field : Field) (name : Text)
  deriving Repr, DecidableEq

def LoadError.message : LoadError → String
  | .notFound path => "Configuration file not found: " ++ String.ofList path
  | .unreadable reason => "I/O error: " ++ reason.message
  | .malformed => "TOML parse error: "
  | .invalidColor field error => s!"Configuration error: {field.name}: {error.message}"
  | .unset field name =>
      "Environment variable error in " ++ field.name ++ ": $\x7b" ++ String.ofList name ++
        "\x7d not set"

def fileName : Path := "dpe.toml".toList

def standardCover : Path := "assets/couverture.png".toList

def standardPrimary : Text := "#5590ee".toList

def standardSecondary : Text := "#3b7dd8".toList

def Settings.standard (directory : Path) : Settings where
  primaryColor := standardPrimary
  secondaryColor := standardSecondary
  defaultCover := Path.join directory standardCover
  source := none

/-- What a settings file says, before references are replaced. -/
structure FileSettings where
  primaryColor : Text
  secondaryColor : Text
  defaultCover : Option Text
  deriving Repr, DecidableEq

/-- A field that holds a text where it is present. -/
def textField? : Option Toml → Option (Option Text)
  | none => some none
  | some (.string value) => some (some value)
  | some _ => none

/-- The fields of a group: by their keys in a table, and by their order in an array. -/
def groupFields? (keys : List Text) : Option Toml → Option (List (Option Text))
  | none => some (keys.map fun _ => none)
  | some (.table _ members) => keys.mapM fun key => textField? (Toml.member? key members)
  | some (.array items) => (keys.zipIdx).mapM fun (_, index) => textField? items[index]?
  | some (.tables elements) =>
      (keys.zipIdx).mapM fun (_, index) =>
        textField? (elements[index]?.map (Toml.table .header))
  | some _ => none

/-- The settings in a root table. Fields and groups of other names are passed over. -/
def FileSettings.ofMembers? (members : Toml.Members) : Option FileSettings := do
  let theme ←
    groupFields? ["primary_color".toList, "secondary_color".toList]
      (Toml.member? "theme".toList members)
  let assets ← groupFields? ["default_cover".toList] (Toml.member? "assets".toList members)
  match theme, assets with
  | [primary, secondary], [cover] =>
      return ⟨primary.getD standardPrimary, secondary.getD standardSecondary, cover⟩
  | _, _ => none

/-- Complains about colors that are none, the primary one first. -/
def Settings.validate (settings : Settings) : Except LoadError Unit := do
  match Rgb.parse settings.primaryColor with
  | .ok _ => pure ()
  | .error error => .error (.invalidColor .primaryColor error)
  match Rgb.parse settings.secondaryColor with
  | .ok _ => pure ()
  | .error error => .error (.invalidColor .secondaryColor error)

/-- The settings after those of the command line have taken the place of the others. -/
def Settings.override (settings : Settings) (overrides : Overrides) : Settings where
  primaryColor := overrides.primaryColor.getD settings.primaryColor
  secondaryColor := overrides.secondaryColor.getD settings.secondaryColor
  defaultCover := overrides.defaultCover.getD settings.defaultCover
  source := settings.source

def expandField (environment : Text → Option Text) (field : Field) (value : Text) :
    Except LoadError Text :=
  match expand environment value with
  | .ok text => .ok text
  | .error name => .error (.unset field name)

def FileSettings.load (files : Files) (path : Path) : Except LoadError FileSettings :=
  match files.readText path with
  | .error reason => .error (.unreadable reason)
  | .ok content =>
      match (Toml.read content.toList).bind FileSettings.ofMembers? with
      | some written => .ok written
      | none => .error .malformed

/-- The settings that a file gives. Its cover is seen from the directory of the file. -/
def loadFile (files : Files) (environment : Text → Option Text) (path : Path) :
    Except LoadError Settings := do
  let written ← FileSettings.load files path
  let primary ← expandField environment .primaryColor written.primaryColor
  let secondary ← expandField environment .secondaryColor written.secondaryColor
  let cover ←
    match written.defaultCover with
    | some cover => expandField environment .defaultCover cover
    | none => pure standardCover
  let directory := (Path.parent? path).getD ['.']
  let settings : Settings := ⟨primary, secondary, Path.join directory cover, some path⟩
  settings.validate
  return settings

/-- The places of a settings file that nobody names, nearest first. -/
def candidates (workingDirectory : Path) : List Path :=
  (Path.ancestors workingDirectory).map fun directory => Path.join directory fileName

/-- The settings file of the nearest directory that has one. -/
def discover (files : Files) (workingDirectory : Path) : Option Path :=
  (candidates workingDirectory).find? files.exists?

def referredVariables (files : Files) (workingDirectory : Path) (named : Option Path) : List Text :=
  match named.or (discover files workingDirectory) with
  | none => []
  | some path =>
      match FileSettings.load files path with
      | .error _ => []
      | .ok written =>
          references written.primaryColor ++ references written.secondaryColor ++
            references (written.defaultCover.getD [])

def loadBase (files : Files) (workingDirectory : Path) (environment : Text → Option Text)
    (named : Option Path) : Except LoadError Settings :=
  match named with
  | some path =>
      if files.exists? path then loadFile files environment path else .error (.notFound path)
  | none =>
      match discover files workingDirectory with
      | some path => loadFile files environment path
      | none => .ok (Settings.standard workingDirectory)

/-- The settings in force. Those of a file must be valid even where the command line
replaces them, and those of the command line are checked again. -/
def load (files : Files) (workingDirectory : Path) (environment : Text → Option Text)
    (named : Option Path) (overrides : Option Overrides) : Except LoadError Settings := do
  let settings ← loadBase files workingDirectory environment named
  match overrides with
  | none => return settings
  | some overrides =>
      let changed := settings.override overrides
      changed.validate
      return changed

end EnergyReport.Config
