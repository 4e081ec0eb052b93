import PresetCompiler.Proofs.Block.Keyed
import PresetCompiler.Preset.Reader

/-! Edits of a preset, one after the other. The keys of its blocks stay distinct, so that it acts as
an ordered map all the time, and the block with a key is the one that was put there last. -/

namespace PresetCompiler

/-- One edit of the blocks of a preset. -/
inductive Edit
  | upsert (block : Block)
  | remove (key : BlockKey)
  | move (source target : Nat)
  | merge

namespace Edit

/-- Whether an edit puts a block under a key or takes it away. -/
def Touches (key : BlockKey) : Edit → Prop
  | upsert block => block.key = key
  | remove other => other = key
  | move _ _ => False
  | merge => False

/-- Edits put a block under its key, and no later one touches the key. -/
def PutLast (block : Block) (edits : List Edit) : Prop :=
  ∃ before after, edits = before ++ upsert block :: after ∧
    ∀ edit ∈ after, ¬edit.Touches block.key

theorem not_putLast_nil (block : Block) : ¬PutLast block [] := by
  rintro ⟨before, after, hSplit, -⟩
  simp at hSplit

theorem putLast_cons {block : Block} {edit : Edit} {edits : List Edit} :
    PutLast block (edit :: edits) ↔
      edit = upsert block ∧ (∀ later ∈ edits, ¬later.Touches block.key) ∨ PutLast block edits := by
  constructor
  · rintro ⟨before, after, hSplit, hAfter⟩
    cases before with
    | nil =>
      obtain ⟨rfl, rfl⟩ := List.cons.inj hSplit
      exact .inl ⟨rfl, hAfter⟩
    | cons first before =>
      obtain ⟨-, rfl⟩ := List.cons.inj hSplit
      exact .inr ⟨before, after, rfl, hAfter⟩
  · rintro (⟨rfl, hAfter⟩ | ⟨before, after, rfl, hAfter⟩)
    · exact ⟨[], edits, rfl, hAfter⟩
    · exact ⟨edit :: before, after, rfl, hAfter⟩

end Edit

namespace Preset

/-- No two blocks have the same key. -/
def HasDistinctKeys (preset : Preset) : Prop :=
  (preset.blocks.map Block.key).Nodup

instance : DecidablePred HasDistinctKeys := fun preset =>
  inferInstanceAs (Decidable (preset.blocks.map Block.key).Nodup)

/-- The preset after an edit. A move that names a place which does not exist changes nothing. -/
def edit (preset : Preset) : Edit → Preset
  | .upsert block => preset.upsert block
  | .remove key => (preset.remove key).2
  | .move source target => (preset.move? source target).getD preset
  | .merge => preset.merge

/-- The preset after edits, one after the other. -/
def editAll (preset : Preset) (edits : List Edit) : Preset :=
  edits.foldl edit preset

/-! ### Steps and runs -/

theorem blocks_edit_move (preset : Preset) (source target : Nat) :
    (preset.edit (.move source target)).blocks =
      (Block.move? source target preset.blocks).getD preset.blocks := by
  rw [edit, move?]
  cases Block.move? source target preset.blocks <;> rfl

theorem edit_eq (preset : Preset) (edit : Edit) :
    preset.edit edit = { preset with blocks := (preset.edit edit).blocks } := by
  cases edit with
  | upsert block => rfl
  | remove key => rfl
  | move source target =>
    rw [Preset.edit, move?]
    cases Block.move? source target preset.blocks <;> rfl
  | merge => rfl

theorem perm_blocks_edit_move (preset : Preset) (source target : Nat) :
    (preset.edit (.move source target)).blocks.Perm preset.blocks := by
  rw [blocks_edit_move]
  cases hMove : Block.move? source target preset.blocks with
  | none => exact List.Perm.refl _
  | some moved => exact Block.perm_of_move? hMove

theorem HasDistinctKeys.edit {preset : Preset} (h : preset.HasDistinctKeys) (edit : Edit) :
    (preset.edit edit).HasDistinctKeys := by
  cases edit with
  | upsert block => exact Block.nodup_key_upsert h block
  | remove key => exact Block.nodup_key_erase h key
  | move source target =>
    exact ((perm_blocks_edit_move preset source target).map Block.key).nodup_iff.mpr h
  | merge => exact Block.nodup_key_merge preset.blocks

theorem HasDistinctKeys.editAll {preset : Preset} (h : preset.HasDistinctKeys)
    (edits : List Edit) : (preset.editAll edits).HasDistinctKeys := by
  induction edits generalizing preset with
  | nil => exact h
  | cons edit rest ih => exact ih (h.edit edit)

/-- An edit puts its block in and takes out those whose key it touches. -/
theorem mem_blocks_edit {preset : Preset} (h : preset.HasDistinctKeys) {edit : Edit}
    {block : Block} :
    block ∈ (preset.edit edit).blocks ↔
      edit = .upsert block ∨ block ∈ preset.blocks ∧ ¬edit.Touches block.key := by
  cases edit with
  | upsert put =>
    have hMem : block ∈ (preset.edit (.upsert put)).blocks ↔
        block = put ∨ block ∈ preset.blocks ∧ block.key ≠ put.key := Block.mem_upsert h
    rw [hMem, Edit.upsert.injEq, Edit.Touches, eq_comm, ne_comm]
  | remove key =>
    have hMem : block ∈ (preset.edit (.remove key)).blocks ↔
        block ∈ preset.blocks ∧ block.key ≠ key := Block.mem_erase h
    rw [hMem, Edit.Touches, ne_comm]
    simp
  | move source target =>
    rw [(perm_blocks_edit_move preset source target).mem_iff]
    simp [Edit.Touches]
  | merge =>
    have hMerge : (preset.edit .merge).blocks = preset.blocks := Block.merge_eq_self h
    rw [hMerge]
    simp [Edit.Touches]

/-- After edits there are the blocks that were put last under their keys, and those that were there
before under keys that no edit touched. -/
theorem mem_blocks_editAll {preset : Preset} (h : preset.HasDistinctKeys) {edits : List Edit}
    {block : Block} :
    block ∈ (preset.editAll edits).blocks ↔ Edit.PutLast block edits ∨
      block ∈ preset.blocks ∧ ∀ edit ∈ edits, ¬edit.Touches block.key := by
  -- On the edits from the front, so that the preset after the first one is the start of the rest.
  induction edits generalizing preset with
  | nil => simp [editAll, Edit.not_putLast_nil]
  | cons edit rest ih =>
    have hStep : block ∈ (preset.editAll (edit :: rest)).blocks ↔ Edit.PutLast block rest ∨
        block ∈ (preset.edit edit).blocks ∧ ∀ later ∈ rest, ¬later.Touches block.key :=
      ih (h.edit edit)
    rw [hStep, mem_blocks_edit h, Edit.putLast_cons, List.forall_mem_cons, or_and_right, and_assoc,
      or_assoc, or_left_comm]

theorem find?_editAll {preset : Preset} (h : preset.HasDistinctKeys) (edits : List Edit)
    (key : BlockKey) (block : Block) :
    (preset.editAll edits).find? key = some block ↔
      block.key = key ∧ Edit.PutLast block edits ∨
        (∀ edit ∈ edits, ¬edit.Touches key) ∧ preset.find? key = some block := by
  rw [find?, find?, Block.find?_eq_some_iff (h.editAll edits), Block.find?_eq_some_iff h,
    mem_blocks_editAll h]
  constructor
  · rintro ⟨hPut | ⟨hMem, hUntouched⟩, rfl⟩
    · exact .inl ⟨rfl, hPut⟩
    · exact .inr ⟨hUntouched, hMem, rfl⟩
  · rintro (⟨rfl, hPut⟩ | ⟨hUntouched, hMem, rfl⟩)
    · exact ⟨.inl hPut, rfl⟩
    · exact ⟨.inr ⟨hMem, hUntouched⟩, rfl⟩

/-! ### Ordered maps -/

/-- The operations of a preset do to its blocks what those of an ordered map do to its entries. -/
structure ActsAsMap (preset : Preset) : Prop where
  /-- A block takes the place of the one with its key. -/
  upsert_present {front back : List Block} {old block : Block}
    (hSplit : preset.blocks = front ++ old :: back) (hKey : old.key = block.key) :
    preset.upsert block = { preset with blocks := front ++ block :: back }
  /-- A block with a new key is put at the end. -/
  upsert_new {block : Block} (hNew : preset.find? block.key = none) :
    preset.upsert block = { preset with blocks := preset.blocks ++ [block] }
  remove_present {front back : List Block} {old : Block}
    (hSplit : preset.blocks = front ++ old :: back) :
    preset.remove old.key = (some old, { preset with blocks := front ++ back })
  remove_absent {key : BlockKey} (hAbsent : preset.find? key = none) :
    preset.remove key = (none, preset)
  /-- A move puts the block at `source` to `target`, shifts those between by one place, keeps all
  blocks and can be undone. -/
  move_inside {source target : Nat} (hSource : source < preset.blocks.length)
    (hTarget : target < preset.blocks.length) :
    ∃ moved, preset.move? source target = some { preset with blocks := moved } ∧
      moved.Perm preset.blocks ∧
      (∀ place, moved[place]? = preset.blocks[Block.placeBefore source target place]?) ∧
      { preset with blocks := moved }.move? target source = some preset
  move_outside {source target : Nat}
    (hOutside : ¬(source < preset.blocks.length ∧ target < preset.blocks.length)) :
    preset.move? source target = none ∧ preset.edit (.move source target) = preset
  merge : preset.merge = preset

theorem HasDistinctKeys.actsAsMap {preset : Preset} (h : preset.HasDistinctKeys) :
    preset.ActsAsMap where
  upsert_present hSplit hKey := by rw [upsert, Block.upsert_of_split h hSplit hKey]
  upsert_new hNew := by rw [upsert, Block.upsert_of_notMem (Block.find?_eq_none_iff.mp hNew)]
  remove_present {front back old} hSplit := by
    have hFind : preset.find? old.key = some old :=
      (Block.find?_eq_some_iff h).mpr ⟨by simp [hSplit], rfl⟩
    rw [remove, hFind, Block.erase_of_split h hSplit]
  remove_absent hAbsent := by
    rw [remove, hAbsent, Block.erase_of_notMem (Block.find?_eq_none_iff.mp hAbsent)]
  move_inside {source target} hSource hTarget := by
    obtain ⟨moved, hMoved⟩ : ∃ moved, Block.move? source target preset.blocks = some moved :=
      ⟨_, Block.move?_eq_some_iff.mpr ⟨hTarget, hSource, rfl⟩⟩
    refine ⟨moved, ?_, Block.perm_of_move? hMoved, Block.getElem?_of_move? hMoved, ?_⟩
    · rw [move?, hMoved, Option.map_some]
    · rw [move?, Block.move?_of_move? hMoved, Option.map_some]
  move_outside hOutside := by
    have hNone := Block.move?_eq_none_iff.mpr hOutside
    rw [Preset.edit, move?, hNone]
    exact ⟨rfl, rfl⟩
  merge := by rw [merge, Block.merge_eq_self h]

/-- Presets that are read or new have distinct keys, and edits keep them distinct. The preset acts
as an ordered map all along, in which each key has the block that the edits put there last, or the
one from the start when none of them touched the key. -/
theorem editAll_actsAsMap :
    (∀ document, (parse document).HasDistinctKeys) ∧ (∀ name, (new name).HasDistinctKeys) ∧
    ∀ preset : Preset, preset.HasDistinctKeys → ∀ edits,
      (preset.editAll edits).HasDistinctKeys ∧ (preset.editAll edits).ActsAsMap ∧
      ∀ key block, (preset.editAll edits).find? key = some block ↔
        block.key = key ∧ Edit.PutLast block edits ∨
          (∀ edit ∈ edits, ¬edit.Touches key) ∧ preset.find? key = some block := by
  refine ⟨fun document => ?_, fun name => List.nodup_nil, fun preset h edits => ?_⟩
  · rw [HasDistinctKeys, parse]
    dsimp only
    exact Block.nodup_key_merge _
  · exact ⟨h.editAll edits, (h.editAll edits).actsAsMap, find?_editAll h edits⟩

/-- A block is put at the end, moved to the front and kept while another one is removed. -/
theorem editAll_actsAsMap_voice :
    let games := Block.ofArgs "--filter-tcp=443\n--hostlist=games.txt"
    let video := Block.ofArgs "--filter-udp=443\n--hostlist=video.txt"
    let voice := Block.ofArgs "--filter-udp=50000-50010\n--ipset=ipset-voice.txt"
    let preset := { new "Home" with blocks := [games, video] }
    let edits : List Edit := [.upsert voice, .move 2 0, .remove games.key]
    preset.HasDistinctKeys ∧ (preset.editAll edits).HasDistinctKeys ∧
      (preset.editAll edits).blocks = [voice, video] ∧
      (preset.editAll edits).find? voice.key = some voice ∧
      (preset.editAll edits).remove video.key =
        (some video, { preset.editAll edits with blocks := [voice] }) := by
  intro games video voice preset edits
  have hStart : preset.HasDistinctKeys := by decide +kernel
  have hBlocks : (preset.editAll edits).blocks = [voice, video] := by decide +kernel
  have hOther : games.key ≠ voice.key := by decide +kernel
  obtain ⟨-, -, hEdits⟩ := editAll_actsAsMap
  obtain ⟨hDistinct, hMap, hFind⟩ := hEdits preset hStart edits
  have hPut : Edit.PutLast voice edits :=
    ⟨[], [.move 2 0, .remove games.key], rfl, by simp [Edit.Touches, hOther]⟩
  refine ⟨hStart, hDistinct, hBlocks, (hFind voice.key voice).mpr (.inl ⟨rfl, hPut⟩), ?_⟩
  have hSplit : (preset.editAll edits).blocks = [voice] ++ video :: [] := hBlocks
  exact hMap.remove_present hSplit

end Preset

end PresetCompiler
