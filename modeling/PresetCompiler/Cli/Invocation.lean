import PresetCompiler.Cli.Usage
import PresetCompiler.Filter.Settings

/-! The command line of this program: what can be asked of it, and how that is written. -/

namespace PresetCompiler.Cli

/-- How a preset is shown. -/
inductive ShowFormat
  | text
  | json
  | toml
  deriving DecidableEq, Repr

/-- What is asked about settings. -/
inductive SettingsCommand
  /-- Show settings: those of a file, or else those in use. -/
  | show (file : Option String)
  /-- Write the default settings to a file. -/
  | generate (output : String) (force : Bool)
  /-- Say whether the settings in a file are valid. -/
  | validate (file : String)
  /-- Say where settings are looked for. -/
  | paths
  deriving DecidableEq, Repr

/-- What is asked of the program. A preset that is not named is the active one. -/
inductive Command
  | show (file : Option String) (format : ShowFormat)
  | format (file output : Option String) (withHeader atomic : Bool)
  | compile (file : Option String) (filters : FilterSettings) (onePerLine : Bool)
  | strategy (file catalog : Option String)
  | settings (command : SettingsCommand)
  | completions (shell : String)
  deriving DecidableEq, Repr

/-- A command and the file of the settings to use, when it is named. -/
structure Invocation where
  settingsFile : Option String
  command : Command
  deriving DecidableEq, Repr

/-- The name of the file with settings. -/
def settingsFileName : String := "wpreset.toml"

/-! ### The grammar -/

/-- The options of every command. -/
def commonOptions : List OptionSpec :=
  [{ long := "config", short := some 'c', kind := .value .path },
    { long := "verbose", short := some 'v', kind := .counter },
    { long := "log-format", kind := .value (.choice ["text", "json", "compact"]) },
    { long := "log-file", kind := .value .text },
    { long := "quiet", short := some 'q', kind := .flag },
    { long := "help", short := some 'h', kind := .help },
    { long := "version", short := some 'V', kind := .version }]

/-- The argument that names a file. -/
def filePlace (isRequired : Bool) : PlaceSpec :=
  { name := "file", kind := .path, isRequired }

/-- A command with the common options and some of its own. -/
def commandSpec (name : String) (options : List OptionSpec) (place : Option PlaceSpec)
    (commands : List CommandSpec) : CommandSpec :=
  { name
    options := options ++ commonOptions
    place
    conflicts := [("quiet", "verbose")]
    commands }

/-- An option without a value, with its long name. -/
def flagSpec (long : String) : OptionSpec :=
  { long, kind := .flag }

/-- The command that shows a preset. -/
def showSpec : CommandSpec :=
  let format : OptionSpec :=
    { long := "format", short := some 'f', kind := .value (.choice ["text", "json", "toml"]) }
  commandSpec "show" [format] (some (filePlace false)) []

/-- The option that names the file to write. -/
def outputSpec : OptionSpec :=
  { long := "output", short := some 'o', kind := .value .path }

/-- The command that puts a preset into canonical form. -/
def formatSpec : CommandSpec :=
  commandSpec "format" [outputSpec, flagSpec "no-header", flagSpec "no-atomic"]
    (some (filePlace false)) []

/-- The command that prints the final tokens. -/
def compileSpec : CommandSpec :=
  commandSpec "compile"
    (["remove-hostlists", "remove-ipsets", "allzone", "wssize", "one-per-line"].map flagSpec)
    (some (filePlace false)) []

/-- The command that recognises strategies. -/
def strategySpec : CommandSpec :=
  commandSpec "strategy" [{ long := "catalog", kind := .value .path }] (some (filePlace false)) []

/-- The commands about settings. -/
def settingsSpec : CommandSpec :=
  let file : OptionSpec := { long := "file", short := some 'f', kind := .value .path }
  commandSpec "config" [] none
    [commandSpec "show" [file] none [],
      commandSpec "generate" [outputSpec, flagSpec "force"] none [],
      commandSpec "validate" [] (some (filePlace true)) [],
      commandSpec "paths" [] none []]

/-- The shells that completions are written for. -/
def shells : List String :=
  ["bash", "elvish", "fish", "powershell", "zsh"]

/-- The command that writes completions for a shell. -/
def completionsSpec : CommandSpec :=
  commandSpec "completions" []
    (some { name := "shell", kind := .choice shells, isRequired := true }) []

/-- The whole program. -/
def programSpec : CommandSpec :=
  commandSpec "preset-compiler" [] none
    [showSpec, formatSpec, compileSpec, strategySpec, settingsSpec, completionsSpec]

/-! ### Reading -/

/-- The command of the levels below that of the settings. -/
def SettingsCommand.ofLevels? : List Level → Option SettingsCommand
  | [] => none
  | level :: _ =>
    match level.command.name with
    | "show" => some (.show (level.value? "file"))
    | "generate" =>
      some (.generate ((level.value? "output").getD settingsFileName) (level.has "force"))
    | "validate" => (level.value? "file").map .validate
    | "paths" => some .paths
    | _ => none

/-- The format with a name, which is plain text unless one is given. -/
def ShowFormat.ofName : Option String → ShowFormat
  | some "json" => .json
  | some "toml" => .toml
  | _ => .text

/-- The switches that the options of a level turn on. -/
def Level.filters (level : Level) : FilterSettings :=
  { removeHostlists := level.has "remove-hostlists"
    removeIpsets := level.has "remove-ipsets"
    allzone := level.has "allzone"
    wssize := level.has "wssize" }

/-- The command of the levels below that of the program. -/
def Command.ofLevels? : List Level → Option Command
  | [] => none
  | level :: rest =>
    let file := level.value? "file"
    match level.command.name with
    | "show" => some (.show file (.ofName (level.value? "format")))
    | "format" =>
      some (.format file (level.value? "output") (!level.has "no-header") (!level.has "no-atomic"))
    | "compile" => some (.compile file level.filters (level.has "one-per-line"))
    | "strategy" => some (.strategy file (level.value? "catalog"))
    | "config" => (SettingsCommand.ofLevels? rest).map .settings
    | "completions" => (level.value? "shell").map .completions
    | _ => none

/-- Reads the arguments of the program. Of the files of settings that several levels name the last
one counts. -/
def Invocation.read (args : List String) : Except UsageFault Invocation := do
  let levels ← programSpec.read args
  let settingsFile := (levels.filterMap fun level => level.value? "config").getLast?
  match Command.ofLevels? levels.tail with
  | some command => return { settingsFile, command }
  | none => throw .missingCommand

end PresetCompiler.Cli
