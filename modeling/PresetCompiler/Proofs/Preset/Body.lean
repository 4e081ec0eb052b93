import PresetCompiler.Proofs.Block.Merge
import PresetCompiler.Proofs.Preset.Content

/-! The argument lines of a preset as reading leaves them, and what becomes of them when the preset
is written and read again. The blocks come back from the first line that opens a block on, and what
stands before this line counts as base arguments. -/

namespace PresetCompiler

open Text

/-! ### Tidy presets -/

/-- A block as reading leaves it: its text is made of trimmed argument lines, at least one, and its
fields are those read from this text. -/
@[mk_iff] structure Block.IsTidy (block : Block) : Prop where
  lines : block.args.toList = joinLines block.argLines
  group : IsGroup block.argLines
  fields : block = Block.ofArgs block.args

instance : DecidablePred Block.IsTidy := fun block =>
  decidable_of_iff' _ (Block.isTidy_iff block)

/-- The argument lines of a preset as reading leaves them: trimmed base lines that open no block and
do not begin with a comment, and tidy blocks with distinct keys. -/
@[mk_iff] structure Preset.IsTidy (preset : Preset) : Prop where
  base : preset.baseArgs.toList = joinLines (contentLines preset.baseArgs.toList)
  baseStays : ∀ line ∈ contentLines preset.baseArgs.toList, opensBlock line = false
  baseHead : ∀ line ∈ (contentLines preset.baseArgs.toList).head?, isComment line = false
  block : ∀ block ∈ preset.blocks, block.IsTidy
  keys : (preset.blocks.map Block.key).Nodup

instance : DecidablePred Preset.IsTidy := fun preset =>
  decidable_of_iff' _ (Preset.isTidy_iff preset)

namespace Block

@[simp] theorem args_ofLines (ls : List (List Char)) :
    (ofLines ls).args = String.ofList (joinLines ls) := rfl

theorem argLines_ofLines {group : List (List Char)} (h : IsGroup group) :
    (ofLines group).argLines = group := by
  rw [argLines, args_ofLines, String.toList_ofList,
    contentLines_joinLines_self fun line hLine => (h.line line hLine).content]

theorem map_argLines_ofLines {groups : List (List (List Char))}
    (h : ∀ group ∈ groups, IsGroup group) : (groups.map ofLines).map argLines = groups := by
  induction groups with
  | nil => rfl
  | cons group rest ih =>
    rw [List.map_cons, List.map_cons, argLines_ofLines (h group List.mem_cons_self),
      ih fun other hOther => h other (List.mem_cons_of_mem group hOther)]

theorem isTidy_ofLines {group : List (List Char)} (h : IsGroup group) : (ofLines group).IsTidy :=
  ⟨by rw [argLines_ofLines h, args_ofLines, String.toList_ofList], by rwa [argLines_ofLines h], rfl⟩

theorem IsTidy.eq_ofLines {block : Block} (h : block.IsTidy) : ofLines block.argLines = block := by
  rw [ofLines, ← h.lines, String.ofList_toList, ← h.fields]

theorem map_ofLines_argLines {blocks : List Block} (h : ∀ block ∈ blocks, block.IsTidy) :
    (blocks.map argLines).map ofLines = blocks := by
  rw [List.map_map]
  exact (List.map_congr_left fun block hBlock => (h block hBlock).eq_ofLines).trans
    (List.map_id' blocks)

end Block

namespace Preset

theorem contentLines_baseArgs_ofContent (header : List (List Char)) {body : List (List Char)}
    (h : ∀ line ∈ body, IsContent line) :
    contentLines (ofContent header body).baseArgs.toList = body.takeWhile staysBase := by
  rw [ofContent, String.toList_ofList]
  exact contentLines_joinLines_self fun line hLine =>
    h line ((List.takeWhile_sublist staysBase).subset hLine)

/-- Every document is read as a tidy preset. -/
theorem isTidy_parse (document : String) : (parse document).IsTidy := by
  obtain ⟨header, body, hLines, -, hBody, hParse⟩ := exists_parse_eq document
  have hFeed : ∀ line ∈ body, '\n' ∉ line := fun line hLine =>
    not_mem_of_mem_lines (hLines ▸ List.mem_append_right header hLine)
  have hContent : ∀ line ∈ content body, IsContent line := fun _ => isContent_of_mem_content hFeed
  have hBaseLines : contentLines (parse document).baseArgs.toList =
      (content body).takeWhile staysBase := by
    rw [hParse, contentLines_baseArgs_ofContent header hContent]
  refine ⟨?_, ?_, ?_, ?_, ?_⟩
  · rw [hBaseLines, hParse, ofContent, String.toList_ofList]
  · intro line hLine
    rw [hBaseLines] at hLine
    simpa [staysBase] using List.mem_takeWhile_imp hLine
  · intro line hLine
    rw [hBaseLines, List.head?_takeWhile] at hLine
    exact hBody line (Option.filter_eq_some_iff.mp hLine).1
  · intro block hBlock
    rw [hParse] at hBlock
    obtain ⟨group, hGroup, rfl⟩ := List.mem_map.mp (Block.mem_of_mem_merge hBlock)
    refine Block.isTidy_ofLines (isGroup_of_mem_argGroups (fun line hLine => ?_) hGroup)
    exact hContent line ((List.dropWhile_sublist staysBase).subset hLine)
  · rw [hParse]
    exact Block.nodup_key_merge _

theorem IsTidy.isGroup {preset : Preset} (h : preset.IsTidy) :
    ∀ group ∈ preset.blocks.map Block.argLines, IsGroup group := by
  intro group hGroup
  obtain ⟨block, hBlock, rfl⟩ := List.mem_map.mp hGroup
  exact (h.block block hBlock).group

/-- The lines that a tidy preset is written with do not begin with a comment. -/
theorem IsTidy.head?_bodyLines {preset : Preset} (h : preset.IsTidy) :
    ∀ line ∈ preset.bodyLines.head?, isComment line = false := by
  intro line hLine
  by_cases hBase : contentLines preset.baseArgs.toList = []
  · rw [bodyLines, hBase, List.nil_append] at hLine
    obtain ⟨group, hGroup, hMem⟩ := mem_head?_joinGroups h.isGroup hLine
    exact ((h.isGroup group hGroup).line line hMem).notComment
  · rw [bodyLines, List.head?_append_of_ne_nil _ hBase] at hLine
    exact h.baseHead line hLine

end Preset

/-! ### Reading the written lines -/

/-- The groups from the first line that opens a block on. -/
def openedGroups : List (List (List Char)) → List (List (List Char))
  | [] => []
  | group :: rest =>
    match group.dropWhile staysBase with
    | [] => openedGroups rest
    | opened => opened :: rest

theorem openedGroups_cons_of_nil {group : List (List Char)} (h : group.dropWhile staysBase = [])
    (rest : List (List (List Char))) : openedGroups (group :: rest) = openedGroups rest := by
  rw [openedGroups, h]

theorem openedGroups_cons_of_ne_nil {group : List (List Char)}
    (h : group.dropWhile staysBase ≠ []) (rest : List (List (List Char))) :
    openedGroups (group :: rest) = group.dropWhile staysBase :: rest := by
  rw [openedGroups]
  split
  · contradiction
  · rfl

theorem length_openedGroups_le (groups : List (List (List Char))) :
    (openedGroups groups).length ≤ groups.length := by
  induction groups with
  | nil => exact Nat.le_refl 0
  | cons group rest ih =>
    rw [openedGroups]
    split
    · exact Nat.le_succ_of_le ih
    · exact Nat.le_refl _

theorem dropWhile_joinGroups (groups : List (List (List Char))) :
    (joinGroups groups).dropWhile staysBase = joinGroups (openedGroups groups) := by
  induction groups with
  | nil => rfl
  | cons group rest ih =>
    by_cases hGroup : group.dropWhile staysBase = []
    · rw [openedGroups_cons_of_nil hGroup, ← ih]
      by_cases hRest : rest = []
      · rw [hRest, joinGroups_singleton, hGroup]
        rfl
      · rw [joinGroups_cons hRest, List.dropWhile_append, hGroup, List.isEmpty_nil, if_pos rfl,
          List.dropWhile_cons_of_pos (by decide)]
    · rw [openedGroups_cons_of_ne_nil hGroup]
      by_cases hRest : rest = []
      · rw [hRest, joinGroups_singleton, joinGroups_singleton]
      · rw [joinGroups_cons hRest, joinGroups_cons hRest, List.dropWhile_append,
          if_neg (by simpa using hGroup)]

theorem isGroup_of_mem_openedGroups {groups : List (List (List Char))}
    (h : ∀ group ∈ groups, IsGroup group) : ∀ group ∈ openedGroups groups, IsGroup group := by
  induction groups with
  | nil => simp [openedGroups]
  | cons first rest ih =>
    have hRest : ∀ group ∈ rest, IsGroup group := fun group hMem =>
      h group (List.mem_cons_of_mem first hMem)
    by_cases hFirst : first.dropWhile staysBase = []
    · rw [openedGroups_cons_of_nil hFirst]
      exact ih hRest
    · rw [openedGroups_cons_of_ne_nil hFirst]
      intro group hMem
      rcases List.mem_cons.mp hMem with rfl | hMem
      · exact ⟨hFirst, fun line hLine => (h first List.mem_cons_self).line line
          ((List.dropWhile_sublist staysBase).subset hLine)⟩
      · exact hRest group hMem

namespace Preset

/-- The base lines of a tidy preset after it was written and read again. -/
def rereadBase (preset : Preset) : List (List Char) :=
  contentLines preset.baseArgs.toList ++
    (joinGroups (preset.blocks.map Block.argLines)).takeWhile staysBase

/-- The groups of a preset after it was written and read again, before equal keys are merged. -/
def rereadGroups (preset : Preset) : List (List (List Char)) :=
  openedGroups (preset.blocks.map Block.argLines)

/-- The blocks of these groups. -/
def rereadBlocks (preset : Preset) : List Block :=
  preset.rereadGroups.map Block.ofLines

/-- No two of these blocks have the same key. -/
def KeepsKeys (preset : Preset) : Prop :=
  (preset.rereadBlocks.map Block.key).Nodup

instance : DecidablePred KeepsKeys := fun preset =>
  inferInstanceAs (Decidable (preset.rereadBlocks.map Block.key).Nodup)

theorem bodyLines_eq (preset : Preset) :
    preset.bodyLines = preset.rereadBase ++ joinGroups preset.rereadGroups := by
  rw [rereadBase, rereadGroups, ← dropWhile_joinGroups, List.append_assoc,
    List.takeWhile_append_dropWhile]
  rfl

section Reread

variable {preset : Preset} (h : preset.IsTidy) (header : List (List Char))
include h

theorem takeWhile_bodyLines : preset.bodyLines.takeWhile staysBase = preset.rereadBase := by
  rw [bodyLines, List.takeWhile_append_of_pos fun line hLine => by
    simp [staysBase, h.baseStays line hLine]]
  rfl

theorem dropWhile_bodyLines :
    preset.bodyLines.dropWhile staysBase = joinGroups preset.rereadGroups := by
  rw [bodyLines, List.dropWhile_append_of_pos fun line hLine => by
    simp [staysBase, h.baseStays line hLine], dropWhile_joinGroups]
  rfl

theorem baseArgs_reread :
    (ofContent header preset.bodyLines).baseArgs =
      String.ofList (joinLines preset.rereadBase) := by
  rw [ofContent, takeWhile_bodyLines h]

theorem isGroup_of_mem_rereadGroups : ∀ group ∈ preset.rereadGroups, IsGroup group :=
  isGroup_of_mem_openedGroups h.isGroup

theorem map_argLines_rereadBlocks : preset.rereadBlocks.map Block.argLines = preset.rereadGroups :=
  Block.map_argLines_ofLines (isGroup_of_mem_rereadGroups h)

theorem isContent_of_mem_rereadBase : ∀ line ∈ preset.rereadBase, IsContent line := by
  intro line hLine
  rcases List.mem_append.mp hLine with hLine | hLine
  · exact isContent_of_mem_contentLines hLine
  · exact isContent_of_mem_joinGroups h.isGroup ((List.takeWhile_sublist staysBase).subset hLine)

theorem blocks_reread :
    (ofContent header preset.bodyLines).blocks =
      Block.merge preset.rereadBlocks := by
  rw [ofContent, dropWhile_bodyLines h, argGroups_joinGroups (isGroup_of_mem_rereadGroups h),
    rereadBlocks]

end Reread

/-! ### Presets whose first block opens with a filter -/

/-- The first block begins with a line that opens a block. -/
def OpensFirst (preset : Preset) : Prop :=
  ∀ block ∈ preset.blocks.head?, ∀ line ∈ block.argLines.head?, opensBlock line = true

instance : DecidablePred OpensFirst := fun preset =>
  inferInstanceAs (Decidable (∀ block ∈ preset.blocks.head?, ∀ line ∈ block.argLines.head?,
    opensBlock line = true))

section OpensFirst

variable {preset : Preset} (h : preset.IsTidy)
include h

/-- Nothing of the blocks counts as base arguments exactly when the first block opens. -/
theorem opensFirst_iff :
    preset.OpensFirst ↔
      (joinGroups (preset.blocks.map Block.argLines)).takeWhile staysBase = [] := by
  cases hBlocks : preset.blocks with
  | nil => simp [OpensFirst, hBlocks, joinGroups]
  | cons first rest =>
    have hGroup := (h.block first (by simp [hBlocks])).group
    obtain ⟨line, lines, hLines⟩ := List.exists_cons_of_ne_nil hGroup.ne_nil
    have hHead : ∃ after, joinGroups ((first :: rest).map Block.argLines) = line :: after := by
      by_cases hRest : rest.map Block.argLines = []
      · exact ⟨lines, by rw [List.map_cons, hRest, joinGroups_singleton, hLines]⟩
      · exact ⟨_, by rw [List.map_cons, joinGroups_cons hRest, hLines, List.cons_append]⟩
    obtain ⟨after, hAfter⟩ := hHead
    rw [hAfter]
    cases hOpens : opensBlock line <;> simp [OpensFirst, hBlocks, hLines, staysBase, hOpens]

theorem opensFirst_iff_rereadBase :
    preset.OpensFirst ↔ preset.rereadBase = contentLines preset.baseArgs.toList := by
  rw [opensFirst_iff h, rereadBase, List.append_right_eq_self]

theorem rereadGroups_of_opensFirst (hOpens : preset.OpensFirst) :
    preset.rereadGroups = preset.blocks.map Block.argLines := by
  have hNone := (opensFirst_iff h).mp hOpens
  have hJoin : joinGroups preset.rereadGroups = joinGroups (preset.blocks.map Block.argLines) := by
    conv_rhs => rw [← List.takeWhile_append_dropWhile (p := staysBase)
      (l := joinGroups (preset.blocks.map Block.argLines)), hNone, dropWhile_joinGroups]
    rfl
  rw [← argGroups_joinGroups (isGroup_of_mem_rereadGroups h), hJoin,
    argGroups_joinGroups h.isGroup]

theorem baseArgs_reread_iff (header : List (List Char)) :
    (ofContent header preset.bodyLines).baseArgs = preset.baseArgs ↔ preset.OpensFirst := by
  rw [baseArgs_reread h, opensFirst_iff_rereadBase h, ← String.toList_inj, String.toList_ofList]
  constructor
  · intro hBase
    rw [← hBase, contentLines_joinLines_self (isContent_of_mem_rereadBase h)]
  · intro hBase
    rw [hBase, ← h.base]

theorem blocks_reread_of_opensFirst (header : List (List Char)) (hOpens : preset.OpensFirst) :
    (ofContent header preset.bodyLines).blocks = preset.blocks := by
  rw [blocks_reread h, rereadBlocks, rereadGroups_of_opensFirst h hOpens,
    Block.map_ofLines_argLines h.block, Block.merge_eq_self h.keys]

theorem blocks_reread_iff (header : List (List Char)) :
    (ofContent header preset.bodyLines).blocks = preset.blocks ↔ preset.OpensFirst := by
  refine ⟨fun hBlocks => ?_, blocks_reread_of_opensFirst h header⟩
  rw [blocks_reread h] at hBlocks
  -- There are at most as many groups as there were blocks, so that merging left none of them out.
  have hKeys : preset.KeepsKeys := by
    by_contra hShared
    have hFewer := Block.length_merge_lt hShared
    have hOpened := length_openedGroups_le (preset.blocks.map Block.argLines)
    rw [hBlocks, rereadBlocks, rereadGroups, List.length_map] at hFewer
    rw [List.length_map] at hOpened
    omega
  rw [Block.merge_eq_self hKeys] at hBlocks
  have hGroups : preset.rereadGroups = preset.blocks.map Block.argLines := by
    rw [← map_argLines_rereadBlocks h, hBlocks]
  rw [opensFirst_iff_rereadBase h]
  have hBody := preset.bodyLines_eq
  rw [hGroups, bodyLines] at hBody
  exact (List.append_cancel_right hBody).symm

end OpensFirst

end Preset

end PresetCompiler
