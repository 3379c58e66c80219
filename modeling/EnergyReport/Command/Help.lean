import EnergyReport.Command.Arguments

namespace EnergyReport.Command

/-! Help texts. -/

def primaryVariable : Text := "DPE_PRIMARY_COLOR".toList

def secondaryVariable : Text := "DPE_SECONDARY_COLOR".toList

structure HelpEntry where
  synopsis : Text
  purpose : String

namespace ValueOption

def purpose : ValueOption → String
  | .output => "Output HTML file (default: stdout)"
  | .name => "Source document name shown in the header (default: input file name)"
  | .logo => "Logo image shown in the header"
  | .cover => "Cover page image (overrides the default cover)"
  | .defaultCover => "Default cover image used when no --cover is given (overrides config)"
  | .endPage => "Full-page image appended at the end. Repeatable"
  | .photo => "Building photo, optionally captioned as PATH=CAPTION. Repeatable"
  | .primaryColor => "Primary theme color, #RRGGBB (overrides config)"
  | .secondaryColor => "Secondary theme color, #RRGGBB (overrides config)"
  | .config => "Path to configuration file (default: auto-discover dpe.toml)"

/-- The name by which help calls the value: the long name in capitals. Options that may
be repeated collect their values under the name of the whole list. -/
def valueName (option : ValueOption) : Text :=
  let name := option.longName.map fun c => if c = '-' then '_' else c.toUpper
  match option with
  | .endPage | .photo => name ++ ['S']
  | _ => name

/-- The variable that stands in for an option. -/
def standIn? : ValueOption → Option Text
  | .primaryColor => some primaryVariable
  | .secondaryColor => some secondaryVariable
  | _ => .none

end ValueOption

def optionNames (short : Option Char) (long : Text) : Text :=
  let shown :=
    match short with
    | some letter => ['-', letter, ',', ' ']
    | none => "    ".toList
  shown ++ ['-', '-'] ++ long

/-- The entry of an option with a value; it tells the variable that stands in for the
option, with its value. -/
def ValueOption.helpEntry (environment : Text → Option Text) (option : ValueOption) :
    HelpEntry where
  synopsis :=
    optionNames option.shortName? option.longName ++ " <".toList ++ option.valueName ++ ['>']
  purpose :=
    match option.standIn? with
    | some standIn =>
        let value := (environment standIn).getD []
        s!"{option.purpose} [env: {String.ofList standIn}={String.ofList value}]"
    | none => option.purpose

def helpOption : HelpEntry := ⟨optionNames (some 'h') "help".toList, "Print help"⟩

def verboseOption : HelpEntry :=
  ⟨optionNames (some 'v') "verbose".toList, "Enable verbose output"⟩

def versionOption : HelpEntry := ⟨optionNames (some 'V') "version".toList, "Print version"⟩

def inputEntry : HelpEntry := ⟨"<INPUT>".toList, "Report text in the markup dialect"⟩

def Topic.purpose : Topic → String
  | .program => "Simplified energy performance report generator - CLI"
  | .render => "Render a report text into an HTML document"
  | .inject => "Add chart directives to a report text and print it"
  | .help => "Print this message or the help of the given subcommand(s)"

def commandEntries : List HelpEntry :=
  [⟨"render".toList, Topic.render.purpose⟩, ⟨"inject".toList, Topic.inject.purpose⟩,
    ⟨"help".toList, Topic.help.purpose⟩]

def columns (title : String) (entries : List HelpEntry) : String :=
  let width := entries.foldl (fun width entry => max width entry.synopsis.length) 0
  let line (entry : HelpEntry) : String :=
    let padding := List.replicate (width - entry.synopsis.length) ' '
    s!"  {String.ofList (entry.synopsis ++ padding)}  {entry.purpose}\n"
  title ++ ":\n" ++ String.join (entries.map line)

def stacked (title : String) (entries : List HelpEntry) : String :=
  let line (entry : HelpEntry) : String :=
    s!"  {String.ofList entry.synopsis}\n          {entry.purpose}\n"
  title ++ ":\n" ++ String.join (entries.map line)

/-- The parts of a help text with blank lines between them. -/
def helpText (topic : Topic) (usage : String) (parts : List String) : String :=
  "\n".intercalate ((topic.purpose ++ "\n") :: ("Usage: dpe " ++ usage ++ "\n") :: parts)

def Topic.text (environment : Text → Option Text) : Topic → String
  | .program =>
      helpText .program "<COMMAND>"
        [columns "Commands" commandEntries, columns "Options" [helpOption, versionOption]]
  | .render =>
      helpText .render "render [OPTIONS] <INPUT>"
        [columns "Arguments" [inputEntry],
          stacked "Options"
            (ValueOption.all.map (ValueOption.helpEntry environment) ++
              [verboseOption, helpOption])]
  | .inject =>
      helpText .inject "inject <INPUT>"
        [columns "Arguments" [inputEntry], columns "Options" [helpOption]]
  | .help => helpText .help "help [COMMAND]" [columns "Commands" commandEntries]

end EnergyReport.Command
