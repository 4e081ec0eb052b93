import PresetCompiler.Form.Basic
import PresetCompiler.Settings.Basic

/-! The stored form of settings. Whatever is missing has its default. -/

namespace PresetCompiler

namespace FilterSettings

/-- The names of the switches. -/
def fieldNames : List String :=
  ["remove_hostlists", "remove_ipsets", "allzone", "wssize", "wildcard_port_matches"]

/-- The stored form of the switches. -/
def form (settings : FilterSettings) : Form :=
  .record [("remove_hostlists", .flag settings.removeHostlists),
    ("remove_ipsets", .flag settings.removeIpsets), ("allzone", .flag settings.allzone),
    ("wssize", .flag settings.wssize),
    ("wildcard_port_matches", .flag settings.wildcardPortMatches)]

/-- Reads the stored form of the switches. -/
def ofForm? (strict : Bool) (form : Form) : Option FilterSettings := do
  let fields ← form.fields? strict fieldNames
  let switch? := fun name => Form.optional? Form.flag? false name fields
  return {
    removeHostlists := ← switch? "remove_hostlists"
    removeIpsets := ← switch? "remove_ipsets"
    allzone := ← switch? "allzone"
    wssize := ← switch? "wssize"
    wildcardPortMatches := ← switch? "wildcard_port_matches" }

end FilterSettings

namespace GeneralSettings

/-- The names of the general settings. -/
def fieldNames : List String :=
  ["presets_dir", "active_preset"]

/-- The stored form of the general settings. -/
def form (settings : GeneralSettings) : Form :=
  .record (Form.entryOf "presets_dir" settings.presetsDir ++
    Form.entryOf "active_preset" settings.activePreset)

/-- Reads the stored form of the general settings. -/
def ofForm? (strict : Bool) (form : Form) : Option GeneralSettings := do
  let fields ← form.fields? strict fieldNames
  return {
    presetsDir := ← Form.optional? (Form.orAbsent? Form.text?) none "presets_dir" fields
    activePreset := ← Form.optional? (Form.orAbsent? Form.text?) none "active_preset" fields }

end GeneralSettings

namespace CatalogSettings

/-- The names of the catalog settings. -/
def fieldNames : List String :=
  ["path"]

/-- The stored form of the catalog settings. -/
def form (settings : CatalogSettings) : Form :=
  .record (Form.entryOf "path" settings.path)

/-- Reads the stored form of the catalog settings. -/
def ofForm? (strict : Bool) (form : Form) : Option CatalogSettings := do
  let fields ← form.fields? strict fieldNames
  return { path := ← Form.optional? (Form.orAbsent? Form.text?) none "path" fields }

end CatalogSettings

namespace LoggingSettings

/-- The names of the logging settings. -/
def fieldNames : List String :=
  ["level", "json_format"]

/-- The stored form of the logging settings. -/
def form (settings : LoggingSettings) : Form :=
  .record [("level", .text settings.level), ("json_format", .flag settings.jsonFormat)]

/-- Reads the stored form of the logging settings. -/
def ofForm? (strict : Bool) (form : Form) : Option LoggingSettings := do
  let fields ← form.fields? strict fieldNames
  return {
    level := ← Form.optional? Form.text? "info" "level" fields
    jsonFormat := ← Form.optional? Form.flag? false "json_format" fields }

end LoggingSettings

namespace Settings

/-- The names of the parts of the settings. -/
def fieldNames : List String :=
  ["general", "filters", "catalog", "logging"]

/-- The stored form of settings. -/
def form (settings : Settings) : Form :=
  .record [("general", settings.general.form), ("filters", settings.filters.form),
    ("catalog", settings.catalog.form), ("logging", settings.logging.form)]

/-- Reads the stored form of settings. -/
def ofForm? (strict : Bool) (form : Form) : Option Settings := do
  let fields ← form.fields? strict fieldNames
  return {
    general := ← Form.optional? (GeneralSettings.ofForm? strict) {} "general" fields
    filters := ← Form.optional? (FilterSettings.ofForm? strict) .off "filters" fields
    catalog := ← Form.optional? (CatalogSettings.ofForm? strict) {} "catalog" fields
    logging := ← Form.optional? (LoggingSettings.ofForm? strict) {} "logging" fields }

end Settings

end PresetCompiler
