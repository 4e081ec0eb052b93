import PresetCompiler.Proofs.Filter.Locality
import PresetCompiler.Proofs.Preset.RoundTrip
import PresetCompiler.Proofs.Tokens

/-! What a preset launches after it was written and read again. The launched tokens are the same
exactly when no two of the blocks that are read have the same key, whatever passes run. -/

namespace PresetCompiler.Preset

open Text

section Reread

variable {preset : Preset} (h : preset.IsTidy) (header : List (List Char))
include h

theorem tokens_reread :
    (ofContent header preset.bodyLines).tokens = lineTokens preset.rereadBase ++
      lineTokens (joinGroups ((Block.merge preset.rereadBlocks).map Block.argLines)) := by
  rw [tokens_eq, bodyLines, baseArgs_reread h, blocks_reread h, String.toList_ofList,
    contentLines_joinLines_self (isContent_of_mem_rereadBase h), lineTokens_append]

theorem tokens_reread_of_keepsKeys (hKeys : preset.KeepsKeys) :
    (ofContent header preset.bodyLines).tokens = preset.tokens := by
  rw [tokens_reread h, Block.merge_eq_self hKeys, map_argLines_rereadBlocks h, ← lineTokens_append,
    ← bodyLines_eq, tokens_eq]

/-- Merged blocks take their separators along. -/
theorem count_tokens_reread_lt (hKeys : ¬preset.KeepsKeys) :
    (ofContent header preset.bodyLines).tokens.count separator < preset.tokens.count separator := by
  have hSome : (Block.merge preset.rereadBlocks).map Block.argLines ≠ [] := by
    cases hBlocks : preset.rereadBlocks with
    | nil => exact absurd (by simp [KeepsKeys, hBlocks]) hKeys
    | cons block rest => simp [Block.merge_cons]
  have hFewer : ((Block.merge preset.rereadBlocks).map Block.argLines).length <
      (preset.rereadBlocks.map Block.argLines).length := by
    rw [List.length_map, List.length_map]
    exact Block.length_merge_lt hKeys
  obtain ⟨taken, hPerm, hTaken⟩ := Block.merge_subperm preset.rereadBlocks
  have hSub : ((Block.merge preset.rereadBlocks).map Block.argLines).Subperm
      (preset.rereadBlocks.map Block.argLines) :=
    ⟨taken.map Block.argLines, hPerm.map _, hTaken.map _⟩
  have hCount := count_joinGroups_lt hSome hSub hFewer
  rw [map_argLines_rereadBlocks h] at hCount
  rw [tokens_reread h, tokens_eq, bodyLines_eq, lineTokens_append, List.count_append,
    List.count_append]
  omega

theorem compile_reread_iff (settings : FilterSettings) :
    (ofContent header preset.bodyLines).compile settings = preset.compile settings ↔
      preset.KeepsKeys := by
  constructor
  · intro hSame
    by_contra hKeys
    -- The passes keep every separator, so that the ones that were lost are missing from the result.
    have hLess := count_tokens_reread_lt h header hKeys
    rw [← settings.count_applyAll, ← settings.count_applyAll preset.tokens] at hLess
    rw [compile, compile] at hSame
    rw [hSame] at hLess
    omega
  · intro hKeys
    rw [compile, tokens_reread_of_keepsKeys h header hKeys, compile]

end Reread

/-- With and without a header, a preset is read back from its argument lines and some header. -/
theorem exists_parse_render_eq {preset : Preset}
    (hHeader : preset.NamesPlainly ∨ preset.StoresHeader) (hBody : preset.IsTidy)
    (withHeader : Bool) :
    ∃ header, parse (preset.render withHeader) = ofContent header preset.bodyLines := by
  cases withHeader with
  | false => exact ⟨[], parse_render_false hBody.head?_bodyLines⟩
  | true =>
    obtain ⟨header, hLines, hLine⟩ := exists_header hHeader
    exact ⟨_, parse_render_true hLines hLine hBody.head?_bodyLines⟩

/-- Formatting a document leaves what it launches as it is exactly when no two of the blocks that
are read back have the same key, and it leaves the blocks as they are exactly when the first one
begins with a filter. -/
theorem compile_parse_render_parse_iff (document : String) (settings : FilterSettings)
    (withHeader : Bool) :
    ((parse ((parse document).render withHeader)).compile settings =
        (parse document).compile settings ↔ (parse document).KeepsKeys) ∧
      ((parse ((parse document).render withHeader)).blocks = (parse document).blocks ↔
        (parse document).OpensFirst) := by
  have hBody := isTidy_parse document
  have hHeader := namesPlainly_or_storesHeader_parse document
  obtain ⟨header, hRead⟩ := exists_parse_render_eq hHeader hBody withHeader
  rw [hRead]
  exact ⟨compile_reread_iff hBody header settings, blocks_reread_iff hBody header⟩

/-- The first block begins with no filter, so that what is read back of it has the key of the last
block, and one of the two is lost. -/
theorem compile_parse_render_parse_ne :
    let document := "--filter-tcp=443\n--hostlist=a.txt\n--new\n" ++
      "--hostlist=a.txt\n--filter-tcp=443\n--new\n--filter-tcp=80"
    (parse document).compile .off =
        ["--hostlist=a.txt", "--filter-tcp=443", "--new", "--filter-tcp=80"] ∧
      (parse ((parse document).render true)).compile .off =
        ["--hostlist=a.txt", "--filter-tcp=80"] := by
  decide +kernel

end PresetCompiler.Preset
