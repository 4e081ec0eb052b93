import PresetCompiler.Block.Form
import PresetCompiler.Preset.Basic

/-! The stored form of presets. -/

namespace PresetCompiler.Preset

/-- The names of the fields of a preset. -/
def fieldNames : List String :=
  ["name", "active_preset", "base_args", "categories", "raw_header"]

/-- The stored form of a preset. -/
def form (preset : Preset) : Form :=
  .record ([("name", .text preset.name)] ++ Form.entryOf "active_preset" preset.activePreset ++
    [("base_args", .text preset.baseArgs), ("categories", .list (preset.blocks.map Block.form))] ++
    if preset.rawHeader = "" then [] else [("raw_header", .text preset.rawHeader)])

/-- Reads the stored form of a list of blocks. -/
def blocksOfForm? (strict : Bool) (form : Form) : Option (List Block) := do
  (← form.items?).mapM (Block.ofForm? strict)

/-- Reads the stored form of a preset. -/
def ofForm? (strict : Bool) (form : Form) : Option Preset := do
  let fields ← form.fields? strict fieldNames
  return {
    name := ← Form.required? Form.text? "name" fields
    activePreset := ← Form.optional? (Form.orAbsent? Form.text?) none "active_preset" fields
    baseArgs := ← Form.required? Form.text? "base_args" fields
    blocks := ← Form.required? (blocksOfForm? strict) "categories" fields
    rawHeader := ← Form.optional? Form.text? "" "raw_header" fields }

end PresetCompiler.Preset
