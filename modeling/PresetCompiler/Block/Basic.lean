import PresetCompiler.Dictionary
import PresetCompiler.Text.Blank
import PresetCompiler.Text.LowerCase

/-! Category blocks: what one block of a preset says, as text and as the fields read from it. -/

namespace PresetCompiler

/-- The transport protocol that a block targets. -/
inductive Protocol
  | tcp
  | udp
  deriving DecidableEq, Repr, Inhabited

namespace Protocol

/-- The name written in presets and catalogs. -/
def name : Protocol → String
  | .tcp => "tcp"
  | .udp => "udp"

/-- A text that names no protocol, trimmed and in lower case. -/
structure Unknown where
  text : String
  deriving DecidableEq, Repr

/-- What is reported of a text that names no protocol. -/
def Unknown.message (fault : Unknown) : String :=
  "Unknown protocol: " ++ fault.text

/-- Reads a protocol name. Case and blanks at the ends do not matter. -/
def ofText (text : String) : Except Unknown Protocol :=
  let plain := String.ofList (Text.lower (Text.trim text.toList))
  if plain = "tcp" then .ok .tcp
  else if plain = "udp" then .ok .udp
  else .error ⟨plain⟩

end Protocol

/-- The family of flags by which a block names its targets. -/
inductive Targeting
  | hostlist
  | ipset
  | none
  deriving DecidableEq, Repr, Inhabited

/-- The name written in the stored form of a block, empty without targets. -/
def Targeting.name : Targeting → String
  | .hostlist => "hostlist"
  | .ipset => "ipset"
  | .none => ""

/-- What identifies a block within a preset. -/
structure BlockKey where
  category : String
  protocol : Protocol
  deriving DecidableEq, Repr

/-- One category block. -/
structure Block where
  /-- The name read from the list file, or `unknown`. -/
  category : String
  protocol : Protocol
  targeting : Targeting
  /-- The list file as written, empty without one. -/
  listFile : String
  /-- The port set or application protocol as written. -/
  ports : String
  /-- The argument lines of the block. -/
  args : String
  /-- The argument lines that describe behaviour rather than targets. -/
  strategyArgs : String
  /-- The parameters of a `--syndata=` flag, when there is one. -/
  syndata : Option (Dictionary String)
  deriving DecidableEq

/-- The identity of a block. -/
def Block.key (block : Block) : BlockKey :=
  ⟨block.category, block.protocol⟩

/-- The category of a block that names no list file. -/
def unknownCategory : String := "unknown"

end PresetCompiler
