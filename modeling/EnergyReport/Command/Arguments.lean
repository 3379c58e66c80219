import EnergyReport.Files.Path
import EnergyReport.Text.Blank

namespace EnergyReport.Command

/-! The command line.

Options are taken from left to right. The first fault, or the first request for help or
the version, decides the outcome. -/

structure PhotoArgument where
  path : Path
  caption : Option Text
  deriving Repr, DecidableEq

structure RenderArguments where
  input : Option Path
  output : Option Path
  name : Option Text
  logo : Option Path
  cover : Option Path
  defaultCover : Option Path
  endPages : List Path
  photos : List PhotoArgument
  primaryColor : Option Text
  secondaryColor : Option Text
  config : Option Path
  verbose : Bool
  deriving Repr, DecidableEq

def RenderArguments.none : RenderArguments :=
  ⟨.none, .none, .none, .none, .none, .none, [], [], .none, .none, .none, false⟩

inductive Topic where
  | program
  | render
  | inject
  | help
  deriving Repr, DecidableEq

/-- The topic that a command of this name has. -/
def Topic.ofName? (name : Text) : Option Topic :=
  if name = "render".toList then some .render
  else if name = "inject".toList then some .inject
  else if name = "help".toList then some .help
  else none

inductive Request where
  | render (input : Path) (arguments : RenderArguments)
  | inject (input : Path)
  | version
  | help (topic : Topic)
  | usageError
  deriving Repr, DecidableEq

inductive ValueOption where
  | output
  | name
  | logo
  | cover
  | defaultCover
  | endPage
  | photo
  | primaryColor
  | secondaryColor
  | config
  deriving Repr, DecidableEq

namespace ValueOption

def all : List ValueOption :=
  [.output, .name, .logo, .cover, .defaultCover, .endPage, .photo, .primaryColor,
    .secondaryColor, .config]

/-- The name after two hyphens. -/
def longName : ValueOption → Text
  | .output => "output".toList
  | .name => "name".toList
  | .logo => "logo".toList
  | .cover => "cover".toList
  | .defaultCover => "default-cover".toList
  | .endPage => "end-page".toList
  | .photo => "photo".toList
  | .primaryColor => "primary-color".toList
  | .secondaryColor => "secondary-color".toList
  | .config => "config".toList

def ofLongName? (name : Text) : Option ValueOption :=
  all.find? fun option => option.longName = name

/-- The name of one letter that some options have as well. -/
def shortName? : ValueOption → Option Char
  | .output => some 'o'
  | .config => some 'c'
  | _ => none

def ofShortName? (letter : Char) : Option ValueOption :=
  all.find? fun option => option.shortName? = some letter

end ValueOption

/-- A photo as it is written: its path, and after the first equals sign its caption. The
path is not empty; a caption without text is none. -/
def PhotoArgument.ofText? (value : Text) : Option PhotoArgument :=
  let (path, caption) :=
    match Text.cut? ['='] value with
    | some (path, caption) => (path, Text.trim caption)
    | none => (value, [])
  if path.isEmpty then none
  else some ⟨path, if caption.isEmpty then none else some caption⟩

/-- The value of an option that may be given once. -/
def once (present : Option α) (value : α) : Option (Option α) :=
  match present with
  | some _ => none
  | none => some (some value)

/-- The path of an option that may be given once; it is not empty. -/
def oncePath (present : Option Path) (value : Path) : Option (Option Path) :=
  if value.isEmpty then none else once present value

namespace RenderArguments

/-- Takes in an option with its value, unless the value does not fit or the option was
given before. -/
def setValue (arguments : RenderArguments) (option : ValueOption) (value : Text) :
    Option RenderArguments :=
  match option with
  | .output => (oncePath arguments.output value).map ({ arguments with output := · })
  | .name => (once arguments.name value).map ({ arguments with name := · })
  | .logo => (oncePath arguments.logo value).map ({ arguments with logo := · })
  | .cover => (oncePath arguments.cover value).map ({ arguments with cover := · })
  | .defaultCover =>
      (oncePath arguments.defaultCover value).map ({ arguments with defaultCover := · })
  | .endPage =>
      if value.isEmpty then .none
      else some { arguments with endPages := arguments.endPages ++ [value] }
  | .photo =>
      (PhotoArgument.ofText? value).map fun photo =>
        { arguments with photos := arguments.photos ++ [photo] }
  | .primaryColor =>
      (once arguments.primaryColor value).map ({ arguments with primaryColor := · })
  | .secondaryColor =>
      (once arguments.secondaryColor value).map ({ arguments with secondaryColor := · })
  | .config => (oncePath arguments.config value).map ({ arguments with config := · })

def setInput (arguments : RenderArguments) (value : Path) : Option RenderArguments :=
  (oncePath arguments.input value).map ({ arguments with input := · })

def setVerbose (arguments : RenderArguments) : Option RenderArguments :=
  if arguments.verbose then .none else some { arguments with verbose := true }

end RenderArguments

/-- What one argument does to the reading of a rendering. -/
inductive Step where
  | fault
  | help
  | next (arguments : RenderArguments)
  /-- The next argument is the value of an option. -/
  | awaiting (arguments : RenderArguments) (option : ValueOption)

def Step.ofArguments : Option RenderArguments → Step
  | some arguments => .next arguments
  | none => .fault

def readLong (arguments : RenderArguments) (body : Text) : Step :=
  let (name, value) :=
    match Text.cut? ['='] body with
    | some (name, value) => (name, some value)
    | none => (body, none)
  match ValueOption.ofLongName? name, value with
  | some option, some value => .ofArguments (arguments.setValue option value)
  | some option, none => .awaiting arguments option
  | none, some _ => .fault
  | none, none =>
      if name = "verbose".toList then .ofArguments arguments.setVerbose
      else if name = "help".toList then .help
      else .fault

/-- Reads the letters after a single hyphen. A letter that takes a value takes the rest,
with or without an equals sign, or else the next argument. -/
def readShort (arguments : RenderArguments) : Text → Step
  | [] => .next arguments
  | letter :: rest =>
      match ValueOption.ofShortName? letter with
      | some option =>
          match rest with
          | [] => .awaiting arguments option
          | '=' :: value => .ofArguments (arguments.setValue option value)
          | value => .ofArguments (arguments.setValue option value)
      | none =>
          if letter = 'v' then
            match arguments.setVerbose with
            | some changed => readShort changed rest
            | none => .fault
          else if letter = 'h' then .help
          else .fault

def readArgument (arguments : RenderArguments) (argument : Text) : Step :=
  match argument with
  | '-' :: '-' :: body => readLong arguments body
  | '-' :: c :: rest => readShort arguments (c :: rest)
  | _ => .ofArguments (arguments.setInput argument)

/-- Whether an argument cannot be the value of the option before it. -/
def looksLikeOption : Text → Bool
  | '-' :: _ :: _ => true
  | _ => false

/-- The request that is complete when the arguments have been read. -/
def RenderArguments.request (arguments : RenderArguments) : Request :=
  match arguments.input with
  | some input => .render input arguments
  | .none => .usageError

def readInputs (arguments : RenderArguments) : List Text → Request
  | [] => arguments.request
  | argument :: rest =>
      match arguments.setInput argument with
      | some changed => readInputs changed rest
      | none => .usageError

/-- Reads the arguments of a rendering; `awaited` is the option whose value comes next. -/
def readRender (arguments : RenderArguments) (awaited : Option ValueOption) :
    List Text → Request
  | [] => if awaited.isSome then .usageError else arguments.request
  | argument :: rest =>
      match awaited with
      | some option =>
          if looksLikeOption argument then .usageError
          else
            match arguments.setValue option argument with
            | some changed => readRender changed none rest
            | none => .usageError
      | none =>
          if argument = ['-', '-'] then readInputs arguments rest
          else
            match readArgument arguments argument with
            | .fault => .usageError
            | .help => .help .render
            | .next changed => readRender changed none rest
            | .awaiting changed option => readRender changed (some option) rest

def readInject (input : Option Path) (onlyInputs : Bool) : List Text → Request
  | [] =>
      match input with
      | some path => .inject path
      | none => .usageError
  | argument :: rest =>
      if !onlyInputs && argument = ['-', '-'] then readInject input true rest
      else if !onlyInputs && looksLikeOption argument then
        if argument = "--help".toList || (argument.take 2 = ['-', 'h']) then .help .inject
        else .usageError
      else
        match oncePath input argument with
        | some path => readInject path onlyInputs rest
        | none => .usageError

def readArguments : List Text → Request
  | [] => .usageError
  | argument :: rest =>
      if argument = "render".toList then readRender .none none rest
      else if argument = "inject".toList then readInject none false rest
      else if argument = "--version".toList || argument.take 2 = ['-', 'V'] then .version
      else if argument = "--help".toList || argument.take 2 = ['-', 'h'] then .help .program
      else if argument = "help".toList then
        match rest with
        | [] => .help .program
        | [name] =>
            match Topic.ofName? name with
            | some topic => .help topic
            | none => .usageError
        | _ => .usageError
      else .usageError

end EnergyReport.Command
