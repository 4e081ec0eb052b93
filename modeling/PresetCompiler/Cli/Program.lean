import PresetCompiler.Cli.Failure
import PresetCompiler.Cli.Invocation
import PresetCompiler.Cli.Report
import PresetCompiler.Storage

/-! The commands of the program, as scripts that answer with the text to print. -/

namespace PresetCompiler.Cli

open Script

/-- The extension of preset files. -/
def presetExtension : String := "txt"

/-! ### Settings -/

/-- The first of some paths that names something. -/
def firstPresent : List String → Attempt ε (Option String)
  | [] => return none
  | path :: rest => do
    if ← containsPath path then return some path else firstPresent rest

/-- Loads the settings for a command: those of the given file, or else of the first file that there
is in the search path, or else the default ones. -/
def loadSettings (given : Option String) (search : List String) : Attempt Failure Settings := do
  let path ← match given with
    | some path => pure (some path)
    | none => firstPresent search
  match path with
  | none => return {}
  | some path =>
    let settings ← (Settings.load path).mapFault (.loadingSettings path)
    match settings.validate with
    | .ok () => return settings
    | .error fault => throw (.invalidSettings path fault)

/-! ### Presets -/

/-- The file of the preset that a command works on. A path that names nothing here is looked up in
the directory of presets. -/
def presetPath (given : Option String) (settings : GeneralSettings) : Attempt Failure String := do
  match given with
  | some path =>
    if (← containsPath path) ∨ Path.isAbsolute path then return path
    match settings.presetsDir with
    | none => return path
    | some directory =>
      let candidate := Path.join directory path
      return if ← containsPath candidate then candidate else path
  | none =>
    match settings.activePreset with
    | none => throw .noPreset
    | some name =>
      let path := Path.withExtension presetExtension name
      return match settings.presetsDir with
        | some directory => Path.join directory path
        | none => path

/-- Loads the preset that a command works on, and says from which file. -/
def loadPreset (given : Option String) (settings : Settings) :
    Attempt Failure (String × Preset) := do
  let path ← presetPath given settings.general
  return (path, ← (Preset.load path).mapFault (.loadingPreset path))

/-! ### Commands -/

/-- Shows a preset. -/
def runShow (settings : Settings) (file : Option String) (format : ShowFormat) :
    Attempt Failure String := do
  let (_, preset) ← loadPreset file settings
  return match format with
    | .text => printLines (summaryLines preset)
    | .json => printLines [presetJson preset]
    | .toml => printLines [presetToml preset]

/-- Writes a preset in canonical form, by default over itself. Without its header it is written in
place. -/
def runFormat (settings : Settings) (file output : Option String) (withHeader atomic : Bool) :
    Attempt Failure String := do
  let (path, preset) ← loadPreset file settings
  let target := output.getD path
  if withHeader then (preset.save target atomic).mapFault (.savingPreset target)
  else (writeFile target (preset.render false)).mapFault (.writingPreset target)
  return printLines
    ["✓ Formatted " ++ target ++ " (" ++ toString preset.blocks.length ++ " blocks)"]

/-- The switches of the settings together with those of the command line. -/
def mergeFilters (base extra : FilterSettings) : FilterSettings :=
  { removeHostlists := base.removeHostlists || extra.removeHostlists
    removeIpsets := base.removeIpsets || extra.removeIpsets
    allzone := base.allzone || extra.allzone
    wssize := base.wssize || extra.wssize
    wildcardPortMatches := base.wildcardPortMatches || extra.wildcardPortMatches }

/-- Prints the final tokens of a preset, on one line or on a line each. -/
def runCompile (settings : Settings) (file : Option String) (extra : FilterSettings)
    (onePerLine : Bool) : Attempt Failure String := do
  let (_, preset) ← loadPreset file settings
  let tokens := preset.compile (mergeFilters settings.filters extra)
  return printLines (if onePerLine then tokens else [printTokens tokens])

/-- Recognises the strategies of a preset. -/
def runStrategy (settings : Settings) (file catalog : Option String) : Attempt Failure String := do
  match catalog.or settings.catalog.path with
  | none => throw .noCatalog
  | some path =>
    let catalog ← (Catalog.load path).mapFault (.loadingCatalog path)
    let (_, preset) ← loadPreset file settings
    return printLines (strategyLines catalog preset)

/-- Answers a question about settings, given the settings in use and the search path. -/
def runSettings (settings : Settings) (search : List String) :
    SettingsCommand → Attempt Failure String
  | .show none => return printLines [settings.toToml]
  | .show (some file) => do
    let settings ← (Settings.load file).mapFault (.loadingSettings file)
    return printLines [settings.toToml]
  | .generate output force => do
    if (← containsPath output) ∧ !force then throw (.occupied output)
    (writeFile output defaultSettingsText).mapFault (.writingSettings output)
    return printLines ["Configuration file generated: " ++ output]
  | .validate file => do
    let settings ← (Settings.load file).mapFault (.loadingSettings file)
    match settings.validate with
    | .ok () => return printLines (validLines settings)
    | .error fault => throw (.validation fault)
  | .paths =>
    let places := search.mapIdx fun i path => "  " ++ toString (i + 1) ++ ". " ++ path
    return printLines (["Configuration file search paths:", ""] ++ places)

/-- Runs a command with the settings in use. Completions are not written. -/
def Command.run (settings : Settings) (search : List String) : Command → Attempt Failure String
  | .show file shape => runShow settings file shape
  | .format file output withHeader atomic => runFormat settings file output withHeader atomic
  | .compile file filters onePerLine => runCompile settings file filters onePerLine
  | .strategy file catalog => runStrategy settings file catalog
  | .settings command => runSettings settings search command
  | .completions _ => return ""

/-- How the program ended: without a command to run, with a failed one, or with text to print. -/
inductive Outcome
  | usage (fault : UsageFault)
  | failed (failure : Failure)
  | printed (text : String)
  deriving DecidableEq

/-- Runs the program on its arguments, given the user's own file of settings. -/
def program (userSettings : Option String) (args : List String) : Script Outcome :=
  match Invocation.read args with
  | .error fault => return .usage fault
  | .ok invocation => do
    let result ← ExceptT.run do
      let settings ← loadSettings invocation.settingsFile (settingsFileName :: userSettings.toList)
      invocation.command.run settings (("./" ++ settingsFileName) :: userSettings.toList)
    return match result with
      | .ok text => .printed text
      | .error failure => .failed failure

end PresetCompiler.Cli
