import PresetCompiler.Form.Toml
import PresetCompiler.Settings.Form
import PresetCompiler.Toml.Reader
import PresetCompiler.Toml.Writer

/-! Settings as a TOML document. -/

namespace PresetCompiler

/-- The TOML document of a form that is a record. -/
def Form.tomlDocument : Form → String
  | .record entries => Toml.writeDocument (entriesToToml entries)
  | _ => ""

/-- The TOML document of settings. -/
def Settings.toToml (settings : Settings) : String :=
  settings.form.tomlDocument

/-- Reads settings from a TOML document. -/
def Settings.ofToml (document : String) : Except Fault Settings :=
  match (Toml.readDocument? document).bind fun entries =>
      Settings.ofForm? false (Toml.Value.table entries).form with
  | some settings => .ok settings
  | none => .error .toml

end PresetCompiler
