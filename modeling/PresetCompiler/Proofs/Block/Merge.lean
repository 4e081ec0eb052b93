import Mathlib.Data.List.Induction
import Mathlib.Data.List.Nodup
import Mathlib.Data.List.Perm.Subperm
import PresetCompiler.Preset.Basic

/-! Merging blocks with one key. The slots always say where the block with a key is
(`Merging.Sound`), so that taking a block in is putting it in by its key (`Merging.merged_add`).
What is merged is therefore the first key with its last block, followed by what the blocks with
other keys merge to (`merge_cons`). The merged blocks are some of the blocks given, at most one for
each key, and they are all of them exactly when no two keys agree. -/

namespace PresetCompiler.Block

/-! ### Slots -/

theorem upsert_of_notMem {block : Block} {blocks : List Block}
    (h : block.key ∉ blocks.map Block.key) : upsert block blocks = blocks ++ [block] := by
  induction blocks with
  | nil => rfl
  | cons first rest ih =>
    rw [List.map_cons, List.mem_cons, not_or] at h
    rw [upsert, if_neg (Ne.symm h.1), ih h.2, List.cons_append]

theorem getElem?_concat_eq_some_iff {blocks : List Block} {block other : Block} {n : Nat} :
    (blocks ++ [block])[n]? = some other ↔
      blocks[n]? = some other ∨ n = blocks.length ∧ block = other := by
  rw [List.getElem?_append, List.getElem?_singleton]
  by_cases h : n < blocks.length
  · rw [if_pos h]
    simp [Nat.ne_of_lt h]
  · rw [if_neg h, List.getElem?_eq_none (Nat.le_of_not_lt h)]
    by_cases hEnd : n = blocks.length
    · simp [hEnd]
    · rw [if_neg (by omega)]
      simp [hEnd]

/-- A block is put in at the first place that has its key. -/
theorem upsert_eq_set {block : Block} {blocks : List Block} {slot : Nat} {old : Block}
    (hOld : blocks[slot]? = some old) (hKey : old.key = block.key)
    (hFirst : ∀ n other, blocks[n]? = some other → other.key = block.key → slot ≤ n) :
    upsert block blocks = blocks.set slot block := by
  induction blocks generalizing slot with
  | nil => cases hOld
  | cons first rest ih =>
    rw [upsert]
    split
    · rename_i hHere
      obtain rfl : slot = 0 := Nat.le_zero.mp (hFirst 0 first rfl hHere)
      rfl
    · rename_i hNotHere
      cases slot with
      | zero =>
        cases hOld
        exact absurd hKey hNotHere
      | succ slot =>
        refine congrArg (first :: ·) (ih hOld fun n other hOther hSame => ?_)
        exact Nat.le_of_succ_le_succ (hFirst (n + 1) other hOther hSame)

namespace Merging

/-- A slot is noted for a key exactly when the block there has that key. -/
def Sound (state : Merging) : Prop :=
  ∀ key slot, state.slots.lookup key = some slot ↔
    ∃ block, state.merged[slot]? = some block ∧ block.key = key

theorem sound_nil : Sound ⟨[], []⟩ := by
  intro key slot
  simp

variable {state : Merging} (h : state.Sound) (block : Block)
include h

theorem Sound.notMem_of_lookup (hNone : state.slots.lookup block.key = none) :
    block.key ∉ state.merged.map Block.key := by
  intro hMem
  obtain ⟨old, hOld, hKey⟩ := List.mem_map.mp hMem
  obtain ⟨slot, hSlot⟩ := List.mem_iff_getElem?.mp hOld
  rw [(h block.key slot).mpr ⟨old, hSlot, hKey⟩] at hNone
  contradiction

/-- To take a block in is to put it in by its key. -/
theorem merged_add : (state.add block).merged = upsert block state.merged := by
  rw [add]
  split
  · rename_i slot hSlot
    obtain ⟨old, hOld, hKey⟩ := (h block.key slot).mp hSlot
    refine (upsert_eq_set hOld hKey fun n other hOther hSame => ?_).symm
    -- The slot that is noted is the only one with the key.
    have hNoted := (h block.key n).mpr ⟨other, hOther, hSame⟩
    rw [hSlot] at hNoted
    exact Nat.le_of_eq (Option.some.inj hNoted)
  · rename_i hNone
    exact (upsert_of_notMem (h.notMem_of_lookup block hNone)).symm

theorem Sound.add : (state.add block).Sound := by
  intro key slot
  rw [Merging.add]
  split
  · rename_i noted hNoted
    obtain ⟨old, hOld, hKey⟩ := (h block.key noted).mp hNoted
    rw [h key slot, List.getElem?_set]
    split
    · rename_i hSame
      subst hSame
      have hLength : noted < state.merged.length := (List.getElem?_eq_some_iff.mp hOld).1
      rw [if_pos hLength]
      simp [hOld, hKey]
    · rfl
  · rename_i hNone
    have hNew := h.notMem_of_lookup block hNone
    rw [List.lookup_cons]
    by_cases hKey : key = block.key
    · subst hKey
      rw [beq_self_eq_true]
      constructor
      · rintro ⟨⟩
        exact ⟨block, List.getElem?_concat_length, rfl⟩
      · rintro ⟨other, hOther, hSame⟩
        rcases getElem?_concat_eq_some_iff.mp hOther with hOther | ⟨rfl, -⟩
        · exact absurd (hSame ▸ List.mem_map_of_mem (List.mem_of_getElem? hOther)) hNew
        · rfl
    · rw [beq_false_of_ne hKey]
      refine (h key slot).trans ⟨?_, ?_⟩
      · rintro ⟨other, hOther, hSame⟩
        exact ⟨other, getElem?_concat_eq_some_iff.mpr (.inl hOther), hSame⟩
      · rintro ⟨other, hOther, hSame⟩
        rcases getElem?_concat_eq_some_iff.mp hOther with hOther | ⟨-, rfl⟩
        · exact ⟨other, hOther, hSame⟩
        · exact absurd hSame.symm hKey

end Merging

/-! ### One more block -/

theorem sound_foldl_add {state : Merging} (h : state.Sound) (blocks : List Block) :
    (blocks.foldl Merging.add state).Sound := by
  induction blocks generalizing state with
  | nil => exact h
  | cons block rest ih => exact ih (h.add block)

/-- One more block at the end is put in after the others are merged. -/
theorem merge_concat (blocks : List Block) (block : Block) :
    merge (blocks ++ [block]) = upsert block (merge blocks) := by
  rw [merge, List.foldl_concat, Merging.merged_add (sound_foldl_add Merging.sound_nil blocks)]
  rfl

theorem foldl_upsert (blocks : List Block) :
    blocks.foldl (fun merged block => upsert block merged) [] = merge blocks := by
  -- From the end: the last block is the one that is put in last.
  induction blocks using List.reverseRecOn with
  | nil => rfl
  | append_singleton rest block ih => rw [List.foldl_concat, ih, merge_concat]

/-! ### The first key -/

/-- The last block with a key. -/
def findLast? (key : BlockKey) (blocks : List Block) : Option Block :=
  find? key blocks.reverse

theorem findLast?_concat (key : BlockKey) (blocks : List Block) (block : Block) :
    findLast? key (blocks ++ [block]) =
      if block.key = key then some block else findLast? key blocks := by
  rw [findLast?, find?, List.reverse_append, List.reverse_singleton, List.singleton_append,
    List.find?_cons]
  by_cases h : block.key = key
  · rw [if_pos h, decide_eq_true h]
  · rw [if_neg h, decide_eq_false h]
    rfl

theorem findLast?_mem {key : BlockKey} {blocks : List Block} {block : Block}
    (h : findLast? key blocks = some block) : block ∈ blocks ∧ block.key = key := by
  rw [findLast?, find?] at h
  exact ⟨List.mem_reverse.mp (List.mem_of_find?_eq_some h), by simpa using List.find?_some h⟩

theorem findLast?_eq_none {key : BlockKey} {blocks : List Block} (h : key ∉ blocks.map Block.key) :
    findLast? key blocks = none := by
  rw [findLast?, find?, List.find?_eq_none]
  intro block hBlock hKey
  exact h (List.mem_map.mpr ⟨block, List.mem_reverse.mp hBlock, by simpa using hKey⟩)

/-- The block that stands in the slot of the first of several blocks. -/
theorem slot_mem (b : Block) (rest : List Block) :
    (findLast? b.key rest).getD b ∈ b :: rest ∧ ((findLast? b.key rest).getD b).key = b.key := by
  cases h : findLast? b.key rest with
  | none => exact ⟨List.mem_cons_self, rfl⟩
  | some block =>
    obtain ⟨hMem, hKey⟩ := findLast?_mem h
    exact ⟨List.mem_cons_of_mem b hMem, hKey⟩

@[simp] theorem merge_nil : merge [] = [] := rfl

/-- The first key gets its last block, and the blocks with other keys are merged behind it. -/
theorem merge_cons (b : Block) (rest : List Block) :
    merge (b :: rest) =
      (findLast? b.key rest).getD b :: merge (rest.filter fun other => other.key ≠ b.key) := by
  induction rest using List.reverseRecOn with
  | nil => rfl
  | append_singleton rest block ih =>
    rw [← List.cons_append, merge_concat, ih, findLast?_concat, List.filter_append, upsert,
      (slot_mem b rest).2]
    by_cases h : block.key = b.key
    · rw [if_pos h, if_pos h.symm, Option.getD_some, List.filter_singleton,
        decide_eq_false (not_not_intro h)]
      simp
    · rw [if_neg h, if_neg (Ne.symm h), List.filter_singleton, decide_eq_true h]
      exact congrArg _ (merge_concat _ block).symm

/-- Induction along `merge_cons`, which goes on with the later blocks that do not share the key of
the first. -/
@[elab_as_elim]
theorem merge_induction {motive : List Block → Prop} (blocks : List Block) (nil : motive [])
    (cons : ∀ b rest, motive (rest.filter fun other => other.key ≠ b.key) → motive (b :: rest)) :
    motive blocks :=
  match blocks with
  | [] => nil
  | b :: rest => cons b rest (merge_induction _ nil cons)
termination_by blocks.length
decreasing_by exact Nat.lt_succ_of_le (List.length_filter_le _ _)

/-! ### What is merged -/

theorem mem_of_mem_merge {block : Block} {blocks : List Block} (h : block ∈ merge blocks) :
    block ∈ blocks := by
  induction blocks using merge_induction with
  | nil => simp at h
  | cons b rest ih =>
    rw [merge_cons] at h
    rcases List.mem_cons.mp h with rfl | h
    · exact (slot_mem b rest).1
    · exact List.mem_cons_of_mem b (List.mem_of_mem_filter (ih h))

/-- Merging keeps every key and adds none. -/
theorem mem_map_key_merge {key : BlockKey} {blocks : List Block} :
    key ∈ (merge blocks).map Block.key ↔ key ∈ blocks.map Block.key := by
  induction blocks using merge_induction with
  | nil => simp
  | cons b rest ih =>
    rw [merge_cons, List.map_cons, List.map_cons, List.mem_cons, List.mem_cons, ih,
      (slot_mem b rest).2]
    by_cases hKey : key = b.key
    · simp [hKey]
    · simp only [List.mem_map, List.mem_filter, decide_eq_true_eq, hKey, false_or]
      constructor
      · rintro ⟨block, ⟨hMem, -⟩, rfl⟩
        exact ⟨block, hMem, rfl⟩
      · rintro ⟨block, hMem, rfl⟩
        exact ⟨block, ⟨hMem, hKey⟩, rfl⟩

theorem nodup_key_merge (blocks : List Block) : ((merge blocks).map Block.key).Nodup := by
  induction blocks using merge_induction with
  | nil => simp
  | cons b rest ih =>
    rw [merge_cons, List.map_cons, List.nodup_cons, (slot_mem b rest).2, mem_map_key_merge]
    refine ⟨fun hKey => ?_, ih⟩
    obtain ⟨block, hBlock, hSame⟩ := List.mem_map.mp hKey
    exact absurd hSame (by simpa using (List.mem_filter.mp hBlock).2)

theorem merge_eq_self {blocks : List Block} (h : (blocks.map Block.key).Nodup) :
    merge blocks = blocks := by
  induction blocks with
  | nil => exact merge_nil
  | cons b rest ih =>
    obtain ⟨hNew, hRest⟩ := List.nodup_cons.mp h
    have hFilter : rest.filter (fun other => other.key ≠ b.key) = rest :=
      List.filter_eq_self.mpr fun other hOther => by
        simpa using fun hKey : other.key = b.key => hNew (hKey ▸ List.mem_map_of_mem hOther)
    rw [merge_cons, findLast?_eq_none hNew, hFilter, ih hRest]
    rfl

theorem merge_subperm (blocks : List Block) : (merge blocks).Subperm blocks :=
  List.subperm_of_subset (List.Nodup.of_map Block.key (nodup_key_merge blocks))
    fun _ => mem_of_mem_merge

/-- Merging blocks that share a key leaves fewer of them. -/
theorem length_merge_lt {blocks : List Block} (h : ¬(blocks.map Block.key).Nodup) :
    (merge blocks).length < blocks.length := by
  have hSub := merge_subperm blocks
  refine Nat.lt_of_le_of_ne hSub.length_le fun hLength => h ?_
  have hPerm := hSub.perm_of_length_le (Nat.le_of_eq hLength.symm)
  exact (hPerm.map Block.key).nodup_iff.mp (nodup_key_merge blocks)

end PresetCompiler.Block
