import PresetCompiler.Filter.Pipeline
import PresetCompiler.Form.Json
import PresetCompiler.Preset.Form
import PresetCompiler.Settings.Document
import PresetCompiler.Strategy.Catalog
import PresetCompiler.Text.Pad

/-! The texts that the program prints about presets, strategies and settings. -/

namespace PresetCompiler.Cli

open Text

/-- Lines as printed, each with its end. -/
def printLines (lines : List String) : String :=
  String.join (lines.map fun line => line ++ "\n")

/-- A line of one character over and over. -/
def rule (c : Char) (width : Nat) : String :=
  String.ofList (List.replicate width c)

/-- The lines of a text. -/
def textLines (text : String) : List String :=
  (lines text.toList).map String.ofList

/-! ### Presets -/

/-- What a block targets, with its list file when it has one. -/
def targetText (block : Block) : String :=
  if block.listFile = "" then block.targeting.name
  else block.targeting.name ++ " " ++ block.listFile

/-- A parameter as shown. One without a value is only named. -/
def parameterText (parameter : String × String) : String :=
  if parameter.2 = "" then parameter.1 else parameter.1 ++ "=" ++ parameter.2

/-- The lines about a block, which is numbered. -/
def blockLines (number : Nat) (block : Block) : List String :=
  let indent := "        "
  let head := "  " ++ padLeft 2 (toString number) ++ ". " ++ padRight 14 block.category ++ " " ++
    padRight 4 block.protocol.name ++ " " ++ padRight 16 block.ports ++ " " ++ targetText block
  let syndata := block.syndata.map fun dictionary =>
    indent ++ "syndata: " ++ ", ".intercalate (dictionary.entries.map parameterText)
  head :: (textLines block.strategyArgs).map (indent ++ ·) ++ syndata.toList

/-- The lines about blocks, which are numbered from a number on. -/
def blocksLines (number : Nat) : List Block → List String
  | [] => []
  | block :: rest => blockLines number block ++ blocksLines (number + 1) rest

/-- The summary of a preset. -/
def summaryLines (preset : Preset) : List String :=
  let base := textLines preset.baseArgs
  [rule '═' 60, " Preset: " ++ preset.name, rule '═' 60] ++
    (preset.activePreset.map ("Active preset: " ++ ·)).toList ++
    ["Base arguments: " ++ toString base.length ++ " line(s)"] ++ base.map ("  " ++ ·) ++
    ["Category blocks: " ++ toString preset.blocks.length, rule '─' 60] ++
    (if preset.blocks = [] then ["  (empty)"] else blocksLines 1 preset.blocks) ++ [rule '═' 60]

/-- A preset as JSON text. -/
def presetJson (preset : Preset) : String :=
  preset.form.toJson.prettyText

/-- A preset as a TOML document. -/
def presetToml (preset : Preset) : String :=
  preset.form.tomlDocument

/-! ### Strategies -/

/-- The strategy of a block as shown, with its display name when that is another. -/
def strategyText (catalog : Catalog) (block : Block) : String :=
  match catalog.source.findForBlock? block with
  | none => noStrategy
  | some id =>
    match catalog.displayName? block.category id with
    | some name => if name = id then id else id ++ " (" ++ name ++ ")"
    | none => id

/-- The line about the strategy of a block. -/
def strategyLine (catalog : Catalog) (block : Block) : String :=
  let label := block.category ++ "/" ++ block.protocol.name
  "  " ++ padRight 20 label ++ " " ++ strategyText catalog block

/-- The lines about the strategies of a preset. -/
def strategyLines (catalog : Catalog) (preset : Preset) : List String :=
  ["Preset: " ++ preset.name, rule '─' 50] ++ preset.blocks.map (strategyLine catalog)

/-! ### Settings -/

/-- A switch as shown. -/
def switchText (value : Bool) : String :=
  if value then "true" else "false"

/-- The lines about valid settings. -/
def validLines (settings : Settings) : List String :=
  ["✓ Configuration is valid",
    "  Remove hostlists: " ++ switchText settings.filters.removeHostlists,
    "  Remove ipsets: " ++ switchText settings.filters.removeIpsets,
    "  Allzone: " ++ switchText settings.filters.allzone,
    "  wssize: " ++ switchText settings.filters.wssize,
    "  Catalog: " ++ settings.catalog.path.getD "(none)"]

/-- The comment at the start of a generated file of settings. -/
def settingsComment : String :=
  "# wpreset configuration\n" ++
    "# [filters] toggles apply to `wpreset compile`; " ++
    "[catalog] path is used by `wpreset strategy`\n\n"

/-- A file of default settings. -/
def defaultSettingsText : String :=
  settingsComment ++ Settings.toToml {}

end PresetCompiler.Cli
