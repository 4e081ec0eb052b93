import PresetCompiler.Proofs.Preset.Edits

/-! Merging as putting in. The blocks of a preset merge to what is there after they have been put
in one by one: each key stands where it came first, with the block that came last
(`Block.merge_concat` for one more block, `Block.foldl_upsert` for all of them). -/

namespace PresetCompiler

namespace Block

theorem find?_upsert (key : BlockKey) (block : Block) (blocks : List Block) :
    find? key (upsert block blocks) =
      if block.key = key then some block else find? key blocks := by
  induction blocks with
  | nil =>
    rw [upsert, find?, List.find?_singleton, find?, List.find?_nil]
    simp only [decide_eq_true_eq]
  | cons first rest ih =>
    rw [upsert]
    by_cases hFirst : first.key = block.key
    · rw [if_pos hFirst, find?, find?, List.find?_cons, List.find?_cons, hFirst]
      by_cases h : block.key = key <;> simp [h]
    · rw [if_neg hFirst, find?, List.find?_cons]
      by_cases h : first.key = key
      · have hNe : block.key ≠ key := fun hSame => hFirst (h.trans hSame.symm)
        rw [decide_eq_true h, if_neg hNe, find?, List.find?_cons, decide_eq_true h]
      · rw [decide_eq_false h]
        change find? key (upsert block rest) = _
        rw [ih, find?, find?, List.find?_cons, decide_eq_false h]

/-- The block with a key is the last one that was given. -/
theorem find?_merge (key : BlockKey) (blocks : List Block) :
    find? key (merge blocks) = findLast? key blocks := by
  induction blocks using List.reverseRecOn with
  | nil => rw [merge_nil]; rfl
  | append_singleton rest block ih => rw [merge_concat, find?_upsert, findLast?_concat, ih]

theorem findLast?_eq_some_iff {key : BlockKey} {blocks : List Block} {block : Block} :
    findLast? key blocks = some block ↔ block.key = key ∧
      ∃ front back, blocks = front ++ block :: back ∧ ∀ later ∈ back, later.key ≠ key := by
  rw [findLast?, find?, List.find?_eq_some_iff_append, decide_eq_true_eq]
  refine and_congr_right fun _ => ⟨?_, ?_⟩
  · rintro ⟨back, front, hSplit, hBack⟩
    refine ⟨front.reverse, back.reverse, ?_, ?_⟩
    · rw [← List.reverse_reverse blocks, hSplit, List.reverse_append, List.reverse_cons,
        List.append_assoc, List.singleton_append]
    · simpa using hBack
  · rintro ⟨front, back, rfl, hBack⟩
    refine ⟨back.reverse, front.reverse, ?_, ?_⟩
    · rw [List.reverse_append, List.reverse_cons, List.append_assoc, List.singleton_append]
    · simpa using hBack

/-- The keys keep the order in which they came first. -/
theorem map_key_merge (blocks : List Block) :
    (merge blocks).map Block.key = (blocks.map Block.key).eraseDups := by
  induction blocks using merge_induction with
  | nil => rw [merge_nil]; rfl
  | cons first rest ih =>
    have hFilter : (rest.filter fun other => other.key ≠ first.key).map Block.key =
        (rest.map Block.key).filter fun key => !key == first.key := by
      rw [List.filter_map]
      exact congrArg _ (List.filter_congr fun other _ => decide_not)
    rw [merge_cons, List.map_cons, (slot_mem first rest).2, ih, hFilter, List.map_cons,
      List.eraseDups_cons]

end Block

namespace Preset

theorem foldl_upsert (preset : Preset) (blocks : List Block) :
    blocks.foldl upsert preset =
      { preset with
        blocks := blocks.foldl (fun merged block => Block.upsert block merged) preset.blocks } := by
  induction blocks generalizing preset with
  | nil => rfl
  | cons first rest ih => rw [List.foldl_cons, ih, List.foldl_cons]; rfl

/-- Merging the blocks of a preset gives what putting them one by one into the preset without
blocks gives, or into any other that has none. Each key that there is stays once, in the order in
which the keys came first, and it has the block that came last. So merging changes a preset only
where keys are not distinct, and never a second time. -/
theorem merge_eq_upserts (preset : Preset) :
    preset.merge = preset.blocks.foldl upsert { preset with blocks := [] } ∧
    (∀ name, preset.merge.blocks = (preset.blocks.foldl upsert (new name)).blocks) ∧
    preset.merge.blocks.map Block.key = (preset.blocks.map Block.key).eraseDups ∧
    (∀ key, key ∈ preset.merge.blocks.map Block.key ↔ key ∈ preset.blocks.map Block.key) ∧
    (∀ key block, preset.merge.find? key = some block ↔ block.key = key ∧
      ∃ front back, preset.blocks = front ++ block :: back ∧ ∀ later ∈ back, later.key ≠ key) ∧
    preset.merge.HasDistinctKeys ∧ preset.merge.merge = preset.merge ∧
    (preset.merge = preset ↔ preset.HasDistinctKeys) := by
  have hDistinct : preset.merge.HasDistinctKeys := Block.nodup_key_merge preset.blocks
  have hSelf {other : Preset} (h : other.HasDistinctKeys) : other.merge = other := by
    rw [merge, Block.merge_eq_self h]
  refine ⟨?_, fun name => ?_, Block.map_key_merge preset.blocks,
    fun key => Block.mem_map_key_merge, fun key block => ?_, hDistinct, hSelf hDistinct,
    fun hSame => hSame ▸ hDistinct, hSelf⟩
  · rw [foldl_upsert, Block.foldl_upsert, merge]
  · rw [foldl_upsert]
    exact (Block.foldl_upsert preset.blocks).symm
  · exact (Eq.congr_left (Block.find?_merge key preset.blocks)).trans Block.findLast?_eq_some_iff

/-- The third block has the key of the first one. It takes its place, and the second stays. -/
theorem merge_eq_upserts_games :
    let games := Block.ofArgs "--filter-tcp=443\n--hostlist=games.txt"
    let video := Block.ofArgs "--filter-udp=443\n--hostlist=video.txt"
    let later := Block.ofArgs "--filter-tcp=80\n--hostlist=games.txt"
    let preset := { new "Home" with blocks := [games, video, later] }
    preset.merge.blocks = [later, video] ∧ preset.merge.find? games.key = some later ∧
      preset.merge.merge = preset.merge ∧ preset.merge ≠ preset := by
  intro games video later preset
  obtain ⟨hUpserts, -, -, -, hFind, -, hTwice, hSelf⟩ := merge_eq_upserts preset
  have hKey : later.key = games.key := by decide +kernel
  refine ⟨?_, (hFind games.key later).mpr ⟨hKey, [games, video], [], rfl, ?_⟩, hTwice, ?_⟩
  · rw [hUpserts]
    decide +kernel
  · intro other hOther
    cases hOther
  · intro hSame
    exact absurd (hSelf.mp hSame) (by decide +kernel)

end Preset

end PresetCompiler
