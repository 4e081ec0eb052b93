import PresetCompiler.Block.Basic

/-! Preset documents and the edits on their blocks. A preset is used as an ordered map from block
keys to blocks: at most one block has a given key once duplicates have been merged. -/

namespace PresetCompiler

/-- The name of a preset whose document names none. -/
def unnamed : String := "Unnamed"

/-- A preset document. -/
structure Preset where
  name : String
  /-- The sibling preset that the document marks as active. -/
  activePreset : Option String
  /-- The argument lines shared by all blocks. -/
  baseArgs : String
  /-- The blocks in document order. -/
  blocks : List Block
  /-- The header as read, empty when it says no more than the name and the active preset. -/
  rawHeader : String
  deriving DecidableEq

/-- The empty preset of a name. -/
def Preset.new (name : String) : Preset :=
  ⟨name, none, "", [], ""⟩

instance : Inhabited Preset := ⟨.new unnamed⟩

namespace Block

/-- The first block with a key. -/
def find? (key : BlockKey) (blocks : List Block) : Option Block :=
  blocks.find? fun block => block.key = key

/-- Puts a block in place of the first one with its key, or at the end. -/
def upsert (block : Block) : List Block → List Block
  | [] => [block]
  | b :: rest => if b.key = block.key then block :: rest else b :: upsert block rest

/-- Removes the first block with a key. -/
def erase (key : BlockKey) : List Block → List Block
  | [] => []
  | b :: rest => if b.key = key then rest else b :: erase key rest

/-- Blocks on the way to being merged. -/
structure Merging where
  /-- The keys met so far, each with the slot that it has among the merged blocks. -/
  slots : List (BlockKey × Nat)
  merged : List Block

/-- Takes one more block in. It goes into the slot of its key, over the block that is there, and a
key that has no slot gets the next one. -/
def Merging.add (state : Merging) (block : Block) : Merging :=
  match state.slots.lookup block.key with
  | some slot => { state with merged := state.merged.set slot block }
  | none => ⟨(block.key, state.merged.length) :: state.slots, state.merged ++ [block]⟩

/-- Merges blocks with one key: each key keeps its first place and its last block. -/
def merge (blocks : List Block) : List Block :=
  (blocks.foldl Merging.add ⟨[], []⟩).merged

/-- Takes the block at `source` out and puts it back so that it stands at `target`; nothing when
either place does not exist. -/
def move? (source target : Nat) (blocks : List Block) : Option (List Block) :=
  if target < blocks.length then
    blocks[source]?.map fun block => (blocks.eraseIdx source).insertIdx target block
  else none

end Block

namespace Preset

/-- The block with a key. -/
def find? (preset : Preset) (key : BlockKey) : Option Block :=
  Block.find? key preset.blocks

/-- The preset with a block in place of the one with its key, or at the end. -/
def upsert (preset : Preset) (block : Block) : Preset :=
  { preset with blocks := Block.upsert block preset.blocks }

/-- The preset with a block at the end, whatever its key. -/
def push (preset : Preset) (block : Block) : Preset :=
  { preset with blocks := preset.blocks ++ [block] }

/-- The preset without the first block with a key, and that block when there is one. -/
def remove (preset : Preset) (key : BlockKey) : Option Block × Preset :=
  (preset.find? key, { preset with blocks := Block.erase key preset.blocks })

/-- The preset with one block moved, when both places exist. -/
def move? (preset : Preset) (source target : Nat) : Option Preset :=
  (Block.move? source target preset.blocks).map fun blocks => { preset with blocks }

/-- The preset with duplicate keys merged. -/
def merge (preset : Preset) : Preset :=
  { preset with blocks := Block.merge preset.blocks }

end Preset

end PresetCompiler
