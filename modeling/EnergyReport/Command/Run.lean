import EnergyReport.Command.Arguments
import EnergyReport.Command.Help
import EnergyReport.Config.Settings
import EnergyReport.Document.Pipeline

namespace EnergyReport.Command

/-! Carrying out a command.

A command sees its surroundings as a value and gives back everything that it does. It
writes its result at the very end, so a failure leaves no trace but a message. -/

structure World where
  files : Files
  /-- Absolute path of the working directory. -/
  workingDirectory : Path
  environment : Text → Option Text
  today : Document.Date

/-- What a command does. The entries of the log, which go to the error output as well, are not
among the messages. -/
structure Outcome where
  code : Nat
  stdout : ByteArray
  messages : List String
  written : Option (Path × ByteArray)

def Outcome.stderr (outcome : Outcome) : String :=
  String.join (outcome.messages.map (· ++ "\n"))

inductive Failure where
  | config (error : Config.LoadError)
  | file (reason : FileError)
  | color (error : InvalidColor)
  | pipeline (error : Document.PipelineError)
  deriving Repr, DecidableEq

def Failure.message : Failure → String
  | .config error => error.message
  | .file reason => reason.message
  | .color error => error.message
  | .pipeline error => error.message

def Outcome.failed (messages : List String) (failure : Failure) : Outcome where
  code := 1
  stdout := .empty
  messages := messages ++ ["Error: " ++ failure.message]
  written := none

/-- The outcome of a wrong command line; the text of the usage is not part of it. -/
def Outcome.usageError : Outcome := ⟨2, .empty, [], none⟩

/-- The outcome after all when writing the file fails: the last message, which tells that
it was written, gives way to the reason. -/
def Outcome.unwritten (outcome : Outcome) (reason : FileError) : Outcome :=
  .failed outcome.messages.dropLast (.file reason)

def Outcome.printed (text : String) : Outcome := ⟨0, text.toUTF8, [], none⟩

def overrides (world : World) (arguments : RenderArguments) : Config.Overrides where
  primaryColor := arguments.primaryColor.or (world.environment primaryVariable)
  secondaryColor := arguments.secondaryColor.or (world.environment secondaryVariable)
  defaultCover := arguments.defaultCover

/-- An image that is skipped when it cannot be used, with the message about that. -/
def loadImage (files : Files) (path : Path) : Option Document.Image × List String :=
  match Document.Image.load files path with
  | .ok image => (some image, [])
  | .error error => (none, ["Skipping image: " ++ error.message])

def loadOptional (files : Files) : Option Path → Option Document.Image × List String
  | some path => loadImage files path
  | none => (none, [])

def loadImages (files : Files) : List Path → List Document.Image × List String
  | [] => ([], [])
  | path :: rest =>
      let (image, messages) := loadImage files path
      let (images, others) := loadImages files rest
      (image.toList ++ images, messages ++ others)

def loadPhotos (files : Files) : List PhotoArgument → List Document.Photo × List String
  | [] => ([], [])
  | argument :: rest =>
      let (image, messages) := loadImage files argument.path
      let (photos, others) := loadPhotos files rest
      ((image.map fun image => ⟨image, argument.caption⟩).toList ++ photos, messages ++ others)

/-- The name that a report shows for its source: the file name of the input. -/
def displayName (input : Path) : Text :=
  (Path.fileName? input).getD input

/-- The options of the document with the messages about images that are skipped. -/
def documentOptions (world : World) (input : Path) (arguments : RenderArguments)
    (settings : Config.Settings) (theme : Theme) : Document.Options × List String :=
  let (logo, logoMessages) := loadOptional world.files arguments.logo
  let (cover, coverMessages) := loadOptional world.files arguments.cover
  let (endPages, pageMessages) := loadImages world.files arguments.endPages
  let (photos, photoMessages) := loadPhotos world.files arguments.photos
  let options : Document.Options := {
    name := arguments.name.getD (displayName input)
    theme, logo, cover
    defaultCover := some settings.defaultCover
    endPages, photos
    date := world.today }
  (options, logoMessages ++ coverMessages ++ pageMessages ++ photoMessages)

def renderInput (world : World) (input : Path) (options : Document.Options) :
    Except Failure ByteArray := do
  let document ←
    match world.files.read input with
    | .ok document => pure document
    | .error reason => .error (.file reason)
  match Document.Pipeline.plain.run world.files document options with
  | .ok rendered => return rendered
  | .error error => .error (.pipeline error)

/-- Puts a finished document where it belongs. -/
def deliver (world : World) (output : Option Path) (messages : List String)
    (document : ByteArray) : Outcome :=
  match output with
  | none => ⟨0, document, messages, none⟩
  | some path =>
      match world.files.writeError? path with
      | some reason => .failed messages (.file reason)
      | none =>
          ⟨0, .empty, messages ++ ["Report written to " ++ String.ofList path],
            some (path, document)⟩

def render (world : World) (input : Path) (arguments : RenderArguments) : Outcome :=
  match
    Config.load world.files world.workingDirectory world.environment arguments.config
      (some (overrides world arguments)) with
  | .error error => .failed [] (.config error)
  | .ok settings =>
      let sourceMessages :=
        match settings.source with
        | some path => ["Config: " ++ String.ofList path]
        | none => []
      match Theme.parse settings.primaryColor settings.secondaryColor with
      | .error error => .failed sourceMessages (.color error)
      | .ok theme =>
          let (options, imageMessages) := documentOptions world input arguments settings theme
          let messages := sourceMessages ++ imageMessages
          match renderInput world input options with
          | .error failure => .failed messages failure
          | .ok document => deliver world arguments.output messages document

/-- Prints a report text with the chart directives added. -/
def inject (world : World) (input : Path) : Outcome :=
  match world.files.readText input with
  | .error reason => .failed [] (.file reason)
  | .ok text => .printed (String.ofList (Report.injectCharts text.toList))

def versionText : String := "dpe 0.1.0\n"

def Request.run (world : World) : Request → Outcome
  | .render input arguments => Command.render world input arguments
  | .inject input => Command.inject world input
  | .version => .printed versionText
  | .help topic => .printed (topic.text world.environment)
  | .usageError => .usageError

def run (world : World) (arguments : List Text) : Outcome :=
  (readArguments arguments).run world

end EnergyReport.Command
