import PresetCompiler.Fault
import PresetCompiler.Filter.Settings
import PresetCompiler.Text.Blank
import PresetCompiler.Text.LowerCase

/-! The settings of the program, and what is wrong with some of them. -/

namespace PresetCompiler

/-- Where presets are found. -/
structure GeneralSettings where
  presetsDir : Option String := none
  /-- The preset that is used when none is named. -/
  activePreset : Option String := none
  deriving DecidableEq, Repr, Inhabited

/-- Where strategies are found. -/
structure CatalogSettings where
  path : Option String := none
  deriving DecidableEq, Repr, Inhabited

/-- What is logged, and how. -/
structure LoggingSettings where
  level : String := "info"
  jsonFormat : Bool := false
  deriving DecidableEq, Repr, Inhabited

/-- The settings of the program. -/
structure Settings where
  general : GeneralSettings := {}
  filters : FilterSettings := .off
  catalog : CatalogSettings := {}
  logging : LoggingSettings := {}
  deriving DecidableEq, Repr, Inhabited

namespace Settings

/-- The levels of logging. -/
def levels : List String :=
  ["error", "warn", "info", "debug", "trace"]

/-- Whether a path is given and has only blanks. -/
def isBlankPath (path : Option String) : Bool :=
  path.any fun path => Text.allBlank path.toList

/-- Accepts settings with a known level, in any case, and without blank paths. -/
def validate (settings : Settings) : Except Fault Unit :=
  let level := settings.logging.level
  if String.ofList (Text.lower level.toList) ∉ levels then
    .error (.settingsValue "logging.level"
      ("Unknown level '" ++ level ++ "', expected one of " ++ ", ".intercalate levels))
  else if isBlankPath settings.catalog.path then
    .error (.settingsValue "catalog.path" "Must not be empty when set")
  else if isBlankPath settings.general.presetsDir then
    .error (.settingsValue "general.presets_dir" "Must not be empty when set")
  else .ok ()

end Settings

end PresetCompiler
