import Mathlib.Data.List.Basic
import Mathlib.Data.List.InsertIdx
import Mathlib.Data.List.Perm.Basic
import PresetCompiler.Proofs.Block.Merge

/-! Blocks with distinct keys as an ordered map. Looking up, putting in and taking out go by the key
alone and leave the other blocks and their order as they are; moving changes only the order. -/

namespace PresetCompiler.Block

/-! ### The block with a key -/

theorem exists_split {key : BlockKey} {blocks : List Block} (h : key ∈ blocks.map Block.key) :
    ∃ front old back, blocks = front ++ old :: back ∧ old.key = key := by
  obtain ⟨old, hMem, hKey⟩ := List.mem_map.mp h
  obtain ⟨front, back, hSplit⟩ := List.append_of_mem hMem
  exact ⟨front, old, back, hSplit, hKey⟩

theorem ne_key_of_notMem {key : BlockKey} {blocks : List Block} (h : key ∉ blocks.map Block.key)
    {block : Block} (hMem : block ∈ blocks) : block.key ≠ key :=
  fun hSame => h (hSame ▸ List.mem_map_of_mem hMem)

section Distinct

variable {blocks : List Block} (h : (blocks.map Block.key).Nodup)
include h

theorem ne_key_of_split {front back : List Block} {old : Block}
    (hSplit : blocks = front ++ old :: back) :
    (∀ block ∈ front, block.key ≠ old.key) ∧ ∀ block ∈ back, block.key ≠ old.key := by
  subst hSplit
  rw [List.map_append, List.map_cons, List.nodup_append] at h
  obtain ⟨-, hBack, hFront⟩ := h
  constructor
  · intro block hBlock
    exact hFront _ (List.mem_map_of_mem hBlock) _ List.mem_cons_self
  · intro block hBlock hSame
    exact (List.nodup_cons.mp hBack).1 (hSame ▸ List.mem_map_of_mem hBlock)

theorem mem_others_iff {front back : List Block} {old other : Block}
    (hSplit : blocks = front ++ old :: back) :
    other ∈ front ++ back ↔ other ∈ blocks ∧ other.key ≠ old.key := by
  obtain ⟨hFront, hBack⟩ := ne_key_of_split h hSplit
  rw [hSplit, List.mem_append, List.mem_append, List.mem_cons]
  constructor
  · rintro (hMem | hMem)
    · exact ⟨.inl hMem, hFront other hMem⟩
    · exact ⟨.inr (.inr hMem), hBack other hMem⟩
  · rintro ⟨hMem | rfl | hMem, hNe⟩
    · exact .inl hMem
    · exact absurd rfl hNe
    · exact .inr hMem

theorem find?_eq_some_iff {key : BlockKey} {block : Block} :
    find? key blocks = some block ↔ block ∈ blocks ∧ block.key = key := by
  constructor
  · intro hFind
    exact ⟨List.mem_of_find?_eq_some hFind, by simpa using List.find?_some hFind⟩
  · rintro ⟨hMem, rfl⟩
    obtain ⟨front, back, hSplit⟩ := List.append_of_mem hMem
    have hFront := (ne_key_of_split h hSplit).1
    rw [find?, hSplit, List.find?_append, List.find?_eq_none.mpr (by simpa using hFront)]
    simp

end Distinct

theorem find?_eq_none_iff {key : BlockKey} {blocks : List Block} :
    find? key blocks = none ↔ key ∉ blocks.map Block.key := by
  simp [find?, List.find?_eq_none]

/-! ### Putting in -/

theorem upsert_append {block : Block} {front : List Block}
    (h : ∀ other ∈ front, other.key ≠ block.key) (back : List Block) :
    upsert block (front ++ back) = front ++ upsert block back := by
  induction front with
  | nil => rfl
  | cons first front ih =>
    rw [List.cons_append, upsert, if_neg (h first List.mem_cons_self),
      ih fun other hOther => h other (List.mem_cons_of_mem first hOther), List.cons_append]

theorem upsert_of_split {block : Block} {blocks : List Block} (h : (blocks.map Block.key).Nodup)
    {front back : List Block} {old : Block} (hSplit : blocks = front ++ old :: back)
    (hKey : old.key = block.key) : upsert block blocks = front ++ block :: back := by
  have hFront := (ne_key_of_split h hSplit).1
  rw [hKey] at hFront
  rw [hSplit, upsert_append hFront, upsert, if_pos hKey]

theorem nodup_key_upsert {blocks : List Block} (h : (blocks.map Block.key).Nodup) (block : Block) :
    ((upsert block blocks).map Block.key).Nodup := by
  by_cases hKey : block.key ∈ blocks.map Block.key
  · obtain ⟨front, old, back, hSplit, hOld⟩ := exists_split hKey
    have hKeys : (front ++ block :: back).map Block.key = blocks.map Block.key := by
      rw [hSplit, List.map_append, List.map_append, List.map_cons, List.map_cons, hOld]
    rwa [upsert_of_split h hSplit hOld, hKeys]
  · rw [upsert_of_notMem hKey, List.map_append, List.map_singleton, ← List.concat_eq_append]
    exact h.concat hKey

theorem mem_upsert {blocks : List Block} (h : (blocks.map Block.key).Nodup) {block other : Block} :
    other ∈ upsert block blocks ↔ other = block ∨ other ∈ blocks ∧ other.key ≠ block.key := by
  by_cases hKey : block.key ∈ blocks.map Block.key
  · obtain ⟨front, old, back, hSplit, hOld⟩ := exists_split hKey
    rw [upsert_of_split h hSplit hOld, List.perm_middle.mem_iff, List.mem_cons,
      mem_others_iff h hSplit, hOld]
  · rw [upsert_of_notMem hKey, List.mem_append, List.mem_singleton, or_comm,
      and_iff_left_of_imp (ne_key_of_notMem hKey)]

/-! ### Taking out -/

theorem erase_eq_eraseP (key : BlockKey) (blocks : List Block) :
    erase key blocks = blocks.eraseP fun block => block.key = key := by
  induction blocks with
  | nil => rfl
  | cons first rest ih =>
    rw [erase, List.eraseP_cons, ih]
    simp

theorem erase_of_notMem {key : BlockKey} {blocks : List Block} (h : key ∉ blocks.map Block.key) :
    erase key blocks = blocks := by
  rw [erase_eq_eraseP, List.eraseP_of_forall_not]
  intro block hBlock hKey
  exact ne_key_of_notMem h hBlock (of_decide_eq_true hKey)

theorem erase_of_split {blocks : List Block} (h : (blocks.map Block.key).Nodup)
    {front back : List Block} {old : Block} (hSplit : blocks = front ++ old :: back) :
    erase old.key blocks = front ++ back := by
  have hFront := (ne_key_of_split h hSplit).1
  rw [erase_eq_eraseP, hSplit, List.eraseP_append_right _ (by simpa using hFront),
    List.eraseP_cons_of_pos (by simp)]

theorem nodup_key_erase {blocks : List Block} (h : (blocks.map Block.key).Nodup)
    (key : BlockKey) : ((erase key blocks).map Block.key).Nodup := by
  rw [erase_eq_eraseP]
  exact h.sublist (List.eraseP_sublist.map Block.key)

theorem mem_erase {blocks : List Block} (h : (blocks.map Block.key).Nodup) {key : BlockKey}
    {other : Block} : other ∈ erase key blocks ↔ other ∈ blocks ∧ other.key ≠ key := by
  by_cases hKey : key ∈ blocks.map Block.key
  · obtain ⟨front, old, back, hSplit, rfl⟩ := exists_split hKey
    rw [erase_of_split h hSplit, mem_others_iff h hSplit]
  · rw [erase_of_notMem hKey, and_iff_left_of_imp (ne_key_of_notMem hKey)]

/-! ### Moving -/

/-- The place at which the block stood that a move from `source` to `target` puts to `place`. -/
def placeBefore (source target place : Nat) : Nat :=
  if place = target then source
  else if source ≤ place ∧ place < target then place + 1
  else if target < place ∧ place ≤ source then place - 1
  else place

section Move

variable {source target : Nat} {blocks moved : List Block}

theorem move?_eq_some_iff :
    move? source target blocks = some moved ↔ target < blocks.length ∧
      ∃ hSource : source < blocks.length,
        (blocks.eraseIdx source).insertIdx target blocks[source] = moved := by
  rw [move?]
  split
  · rename_i hTarget
    rw [Option.map_eq_some_iff]
    constructor
    · rintro ⟨block, hBlock, rfl⟩
      obtain ⟨hSource, rfl⟩ := List.getElem?_eq_some_iff.mp hBlock
      exact ⟨hTarget, hSource, rfl⟩
    · rintro ⟨-, hSource, rfl⟩
      exact ⟨_, List.getElem?_eq_getElem hSource, rfl⟩
  · rename_i hTarget
    simp [hTarget]

theorem move?_eq_none_iff :
    move? source target blocks = none ↔ ¬(source < blocks.length ∧ target < blocks.length) := by
  rw [Option.eq_none_iff_forall_ne_some]
  constructor
  · rintro hNone ⟨hSource, hTarget⟩
    exact hNone _ (move?_eq_some_iff.mpr ⟨hTarget, hSource, rfl⟩)
  · intro hNot moved hMoved
    obtain ⟨hTarget, hSource, -⟩ := move?_eq_some_iff.mp hMoved
    exact hNot ⟨hSource, hTarget⟩

variable (h : move? source target blocks = some moved)
include h

theorem perm_of_move? : moved.Perm blocks := by
  obtain ⟨hTarget, hSource, rfl⟩ := move?_eq_some_iff.mp h
  have hLength := List.length_eraseIdx_of_lt hSource
  exact (List.perm_insertIdx _ _ (by omega)).trans (List.getElem_cons_eraseIdx_perm hSource)

theorem getElem?_of_move? (place : Nat) :
    moved[place]? = blocks[placeBefore source target place]? := by
  obtain ⟨hTarget, hSource, rfl⟩ := move?_eq_some_iff.mp h
  have hLength := List.length_eraseIdx_of_lt hSource
  rw [List.getElem?_insertIdx, placeBefore]
  by_cases hPlace : place = target
  · rw [if_neg (by omega), if_pos hPlace, if_pos (by omega), if_pos hPlace,
      List.getElem?_eq_getElem hSource]
  · rw [if_neg hPlace, if_neg hPlace, List.getElem?_eraseIdx, List.getElem?_eraseIdx]
    -- Before the target the blocks are those of the shorter list; behind it they stand one further.
    by_cases hBefore : place < target
    · rw [if_pos hBefore]
      by_cases hShift : place < source
      · rw [if_pos hShift, if_neg (by omega), if_neg (by omega)]
      · rw [if_neg hShift, if_pos (by omega)]
    · rw [if_neg hBefore]
      by_cases hShift : place - 1 < source
      · rw [if_pos hShift, if_neg (by omega), if_pos (by omega)]
      · rw [if_neg hShift, if_neg (by omega), if_neg (by omega)]
        congr 1
        omega

theorem move?_of_move? : move? target source moved = some blocks := by
  have hLength := (perm_of_move? h).length_eq
  obtain ⟨hTarget, hSource, rfl⟩ := move?_eq_some_iff.mp h
  refine move?_eq_some_iff.mpr ⟨by rwa [hLength], by rwa [hLength], ?_⟩
  rw [List.eraseIdx_insertIdx_self, List.getElem_insertIdx_self,
    List.insertIdx_eraseIdx_getElem hSource]

end Move

end PresetCompiler.Block
