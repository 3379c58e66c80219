import EnergyReport.Command.Run

namespace EnergyReport.Command

/-! What a request needs to know of its surroundings.

Whoever looks at these files and variables, and hands over what there is, can leave the rest
to the request. The files come in two stages: the place of the default cover is one of the
settings, so the settings file is looked at first. -/

/-- What has been seen of the files, by their paths. -/
abbrev Sightings := List (Path × Except FileError Entry)

/-- The files as they have been seen; nothing else is there. -/
def Sightings.files (sightings : Sightings) : Files where
  entry path :=
    match sightings.find? (·.1 = path) with
    | some (_, entry) => entry
    | none => .error .notFound

/-- The variables as they have been seen; no other is set. -/
def seenVariables (sightings : List (Text × Text)) (name : Text) : Option Text :=
  (sightings.find? (·.1 = name)).map (·.2)

namespace Request

def settingsFiles (workingDirectory : Path) : Request → List Path
  | .render _ arguments =>
      match arguments.config with
      | some path => [path]
      | none => Config.candidates workingDirectory
  | _ => []

/-- The variables that the settings depend on. -/
def variableNames (files : Files) (workingDirectory : Path) : Request → List Text
  | .render _ arguments =>
      [primaryVariable, secondaryVariable] ++
        Config.referredVariables files workingDirectory arguments.config
  | .help _ => [primaryVariable, secondaryVariable]
  | _ => []

def defaultCover? (world : World) : Request → Option Path
  | .render _ arguments =>
      match
        Config.load world.files world.workingDirectory world.environment arguments.config
          (some (overrides world arguments)) with
      | .ok settings => some settings.defaultCover
      | .error _ => none
  | _ => none

/-- The files whose content is used, apart from the settings file and the default cover. -/
def sources : Request → List Path
  | .render input arguments =>
      input ::
        (arguments.logo.toList ++ arguments.cover.toList ++ arguments.endPages ++
          arguments.photos.map (·.path))
  | .inject input => [input]
  | _ => []

/-- The places that must be fit for writing; their content does not matter. -/
def targets : Request → List Path
  | .render _ arguments =>
      match arguments.output with
      | some path => [path, Files.folderOf path]
      | none => []
  | _ => []

end Request

end EnergyReport.Command
