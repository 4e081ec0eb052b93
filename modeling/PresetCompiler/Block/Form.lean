import PresetCompiler.Block.Basic
import PresetCompiler.Form.Basic

/-! The stored form of blocks. -/

namespace PresetCompiler

/-- The name that a form chooses from several: a text, or a record with nothing at that name. -/
def Form.choice? : Form → Option String
  | text value => some value
  | record [(name, absent)] => some name
  | _ => none

namespace Protocol

/-- The stored form of a protocol. -/
def form (protocol : Protocol) : Form :=
  .text protocol.name

/-- Reads the stored form of a protocol. -/
def ofForm? (form : Form) : Option Protocol := do
  match ← form.choice? with
  | "tcp" => some .tcp
  | "udp" => some .udp
  | _ => none

end Protocol

namespace Targeting

/-- The stored form of a targeting. -/
def form (targeting : Targeting) : Form :=
  .text targeting.name

/-- Reads the stored form of a targeting. -/
def ofForm? (form : Form) : Option Targeting := do
  match ← form.choice? with
  | "hostlist" => some .hostlist
  | "ipset" => some .ipset
  | "" => some .none
  | _ => none

end Targeting

/-- The stored form of a dictionary of texts. -/
def Dictionary.form (dictionary : Dictionary String) : Form :=
  .record (dictionary.entries.map fun (key, value) => (key, .text value))

/-- Reads the stored form of a dictionary of texts. -/
def Dictionary.ofForm? : Form → Option (Dictionary String)
  | .record entries => do
    let entries ← entries.mapM fun (key, form) => form.text?.map fun value => (key, value)
    return .ofList entries
  | _ => none

namespace Block

/-- The names of the fields of a block. -/
def fieldNames : List String :=
  ["category", "protocol", "filter_mode", "filter_file", "port", "args", "strategy_args",
    "syndata_dict"]

/-- The stored form of a block. -/
def form (block : Block) : Form :=
  .record ([("category", .text block.category), ("protocol", block.protocol.form),
    ("filter_mode", block.targeting.form), ("filter_file", .text block.listFile),
    ("port", .text block.ports), ("args", .text block.args),
    ("strategy_args", .text block.strategyArgs)] ++
    (block.syndata.map fun dictionary => ("syndata_dict", dictionary.form)).toList)

/-- Reads the stored form of a block. -/
def ofForm? (strict : Bool) (form : Form) : Option Block := do
  let fields ← form.fields? strict fieldNames
  return {
    category := ← Form.required? Form.text? "category" fields
    protocol := ← Form.required? Protocol.ofForm? "protocol" fields
    targeting := ← Form.required? Targeting.ofForm? "filter_mode" fields
    listFile := ← Form.required? Form.text? "filter_file" fields
    ports := ← Form.required? Form.text? "port" fields
    args := ← Form.required? Form.text? "args" fields
    strategyArgs := ← Form.required? Form.text? "strategy_args" fields
    syndata := ← Form.optional? (Form.orAbsent? Dictionary.ofForm?) none "syndata_dict" fields }

end Block

end PresetCompiler
