import Mathlib.Data.List.TakeWhile
import PresetCompiler.Preset.Writer
import PresetCompiler.Proofs.Preset.Header

/-! A preset document as its header lines and the content of its body. Reading a document depends on
nothing else (`Preset.parse_eq_ofContent`), and the document written for a preset has the header
lines and the content of that preset (`Preset.parse_render_true`, `Preset.parse_render_false`). -/

namespace PresetCompiler

open Text

/-! ### Groups of argument lines -/

/-- Whether a line stays in front of the first block: it opens none. -/
def staysBase (line : List Char) : Bool :=
  !opensBlock line

/-- The argument lines of each block of a region without blank lines. -/
def argGroups (region : List (List Char)) : List (List (List Char)) :=
  (pieces (· = separator.toList) (region.filter fun line => !isComment line)).filter (· ≠ [])

/-- Argument lines written one group after the other, with a separator between any two. -/
def joinGroups (groups : List (List (List Char))) : List (List Char) :=
  List.intercalate [separator.toList] groups

/-- The block with the given argument lines. -/
def Block.ofLines (ls : List (List Char)) : Block :=
  .ofArgs (String.ofList (joinLines ls))

/-- The lines of a group are argument lines: content, but neither comments nor separators. -/
@[mk_iff] structure IsArgLine (line : List Char) : Prop where
  content : IsContent line
  notComment : isComment line = false
  notSeparator : line ≠ separator.toList

instance : DecidablePred IsArgLine := fun line => decidable_of_iff' _ (isArgLine_iff line)

/-- A group as a block has it: argument lines, at least one. -/
@[mk_iff] structure IsGroup (group : List (List Char)) : Prop where
  ne_nil : group ≠ []
  line : ∀ line ∈ group, IsArgLine line

instance : DecidablePred IsGroup := fun group => decidable_of_iff' _ (isGroup_iff group)

theorem isContent_separator : IsContent separator.toList :=
  ⟨by decide, by decide, by decide⟩

theorem joinGroups_cons {rest : List (List (List Char))} (h : rest ≠ [])
    (group : List (List Char)) :
    joinGroups (group :: rest) = group ++ separator.toList :: joinGroups rest := by
  simp [joinGroups, List.intercalate_cons_of_ne_nil h]

@[simp] theorem joinGroups_singleton (group : List (List Char)) : joinGroups [group] = group :=
  List.intercalate_singleton

theorem mem_joinGroups {groups : List (List (List Char))} {line : List Char}
    (h : line ∈ joinGroups groups) : line = separator.toList ∨ ∃ group ∈ groups, line ∈ group :=
  (mem_intercalate h).imp_left List.mem_singleton.mp

theorem mem_head?_joinGroups {groups : List (List (List Char))}
    (h : ∀ group ∈ groups, IsGroup group) {line : List Char}
    (hLine : line ∈ (joinGroups groups).head?) : ∃ group ∈ groups, line ∈ group := by
  cases groups with
  | nil => simp [joinGroups] at hLine
  | cons first rest =>
    refine ⟨first, List.mem_cons_self, List.mem_of_mem_head? ?_⟩
    by_cases hRest : rest = []
    · rwa [hRest, joinGroups_singleton] at hLine
    · rwa [joinGroups_cons hRest,
        List.head?_append_of_ne_nil _ (h first List.mem_cons_self).ne_nil] at hLine

theorem isContent_of_mem_joinGroups {groups : List (List (List Char))}
    (h : ∀ group ∈ groups, IsGroup group) {line : List Char} (hLine : line ∈ joinGroups groups) :
    IsContent line := by
  rcases mem_joinGroups hLine with rfl | ⟨group, hGroup, hMem⟩
  · exact isContent_separator
  · exact ((h group hGroup).line line hMem).content

theorem argGroups_joinGroups {groups : List (List (List Char))}
    (h : ∀ group ∈ groups, IsGroup group) : argGroups (joinGroups groups) = groups := by
  have hFilter : (joinGroups groups).filter (fun line => !isComment line) = joinGroups groups := by
    refine List.filter_eq_self.mpr fun line hLine => ?_
    rcases mem_joinGroups hLine with rfl | ⟨group, hGroup, hMem⟩
    · decide
    · simp [((h group hGroup).line line hMem).notComment]
  rw [argGroups, hFilter]
  by_cases hNil : groups = []
  · subst hNil
    rfl
  · have hSplit : pieces (· = separator.toList) (joinGroups groups) = groups :=
      pieces_intercalate (by simp) (fun group hGroup line hLine => by
        simpa using ((h group hGroup).line line hLine).notSeparator) hNil
    rw [hSplit]
    exact List.filter_eq_self.mpr fun group hGroup => by simpa using (h group hGroup).ne_nil

theorem isGroup_of_mem_argGroups {region : List (List Char)}
    (h : ∀ line ∈ region, IsContent line) {group : List (List Char)}
    (hGroup : group ∈ argGroups region) : IsGroup group := by
  obtain ⟨hPiece, hNil⟩ := List.mem_filter.mp hGroup
  refine ⟨by simpa using hNil, fun line hLine => ?_⟩
  obtain ⟨hRegion, hComment⟩ := List.mem_filter.mp (mem_of_mem_pieces hPiece hLine)
  exact ⟨h line hRegion, by simpa using hComment,
    by simpa using not_isCut_of_mem_pieces hPiece hLine⟩

/-! ### Reading -/

theorem opensBlock_trim (line : List Char) : opensBlock (trim line) = opensBlock line := by
  rw [opensBlock, opensBlock, trim_trim]

theorem head?_of_opensBlock {line : List Char} (h : opensBlock line = true) :
    (trim line).head? = some '-' := by
  simp only [opensBlock, startsWithAny, List.any_map, List.any_eq_true, filterLeads,
    Function.comp_apply, startsWith_iff] at h
  obtain ⟨lead, hLead, rest, hLine⟩ := h
  rw [hLine]
  revert lead
  simp

theorem staysBase_of_isHeaderLine {line : List Char} (h : isHeaderLine line = true) :
    staysBase line = true := by
  rw [staysBase, Bool.not_eq_true']
  by_contra hOpens
  have hHead := head?_of_opensBlock (Bool.not_eq_false _ ▸ hOpens)
  rcases Bool.or_eq_true_iff.mp h with hBlank | hComment
  · simp [of_decide_eq_true hBlank] at hHead
  · simp [isComment, hHead, commentMark] at hComment

theorem content_takeWhile (body : List (List Char)) :
    content (body.takeWhile staysBase) = (content body).takeWhile staysBase := by
  rw [content, content, List.takeWhile_filter, List.takeWhile_map]
  congr 3
  funext line
  by_cases h : trim line = []
  · simp [h, staysBase, ← opensBlock_trim line, show opensBlock [] = false by decide]
  · simp [h, staysBase, opensBlock_trim]

theorem content_dropWhile (body : List (List Char)) :
    content (body.dropWhile staysBase) = (content body).dropWhile staysBase := by
  rw [content, content, List.dropWhile_filter, List.dropWhile_map]
  congr 3
  funext line
  by_cases h : trim line = []
  · simp [h, staysBase, ← opensBlock_trim line, show opensBlock [] = false by decide]
  · simp [h, staysBase, opensBlock_trim]

/-- The texts of the blocks of a region are those of the groups in its content. -/
theorem blockTexts_eq (region : List (List Char)) :
    blockTexts region =
      (argGroups (content region)).map fun group => String.ofList (joinLines group) := by
  have hKeep : ∀ line, decide (line = separator.toList) = true →
      (line ≠ [] && !isComment line) = true := by
    intro line hLine
    obtain rfl := of_decide_eq_true hLine
    decide
  rw [blockTexts, argGroups, content, List.filter_filter, ← pieces_filter hKeep]
  simp only [Bool.and_comm]

/-- The preset that the header lines of a document and the content of its body describe. -/
def Preset.ofContent (header body : List (List Char)) : Preset :=
  let fields := Header.ofLines header
  let name := fields.name.getD unnamed
  { name
    activePreset := fields.activePreset
    baseArgs := String.ofList (joinLines (body.takeWhile staysBase))
    blocks := Block.merge ((argGroups (body.dropWhile staysBase)).map Block.ofLines)
    rawHeader :=
      if joinLines fields.lines = joinLines (plainHeader name fields.activePreset) then ""
      else String.ofList (joinLines fields.lines) }

/-- A body starts with an argument line: its first line that is not blank is no comment. -/
def StartsWithArgs (body : List (List Char)) : Prop :=
  ∀ line ∈ (content body).head?, isComment line = false

/-- The header lines in front of a body that starts with an argument line are blank. -/
theorem blank_of_mem_takeWhile {body : List (List Char)} (h : StartsWithArgs body) :
    ∀ line ∈ body.takeWhile isHeaderLine, trim line = [] := by
  induction body with
  | nil => simp
  | cons first rest ih =>
    by_cases hBlank : trim first = []
    · have hRest : StartsWithArgs rest := by
        rwa [StartsWithArgs, content_cons_of_blank hBlank] at h
      rw [List.takeWhile_cons_of_pos (isHeaderLine_of_blank hBlank)]
      intro line hLine
      rcases List.mem_cons.mp hLine with rfl | hLine
      · exact hBlank
      · exact ih hRest line hLine
    · have hFirst : isComment (trim first) = false :=
        h (trim first) (by simp [content, hBlank])
      rw [List.takeWhile_cons_of_neg (by simp [isHeaderLine, hBlank, hFirst])]
      simp

/-- What a document describes depends on its header lines and the content after them. -/
theorem Preset.parse_eq_ofContent {document : String} {header body : List (List Char)}
    (hLines : lines document.toList = header ++ body)
    (hHeader : ∀ line ∈ header, isHeaderLine line = true) (hBody : StartsWithArgs body) :
    Preset.parse document = Preset.ofContent header (content body) := by
  have hBlank := blank_of_mem_takeWhile hBody
  have hContent : content body = content (body.dropWhile isHeaderLine) := by
    conv_lhs => rw [← List.takeWhile_append_dropWhile (p := isHeaderLine) (l := body)]
    rw [content_append, content_eq_nil_iff.mpr hBlank, List.nil_append]
  rw [Preset.parse, Preset.ofContent, hLines, List.takeWhile_append_of_pos hHeader,
    List.dropWhile_append_of_pos hHeader, Header.ofLines_append_blank hBlank, hContent,
    ← content_takeWhile, ← content_dropWhile]
  simp only [blockTexts_eq, List.map_map]
  rfl

/-- The lines of a document before the first that is neither blank nor a comment. -/
def headerRegion (document : String) : List (List Char) :=
  (lines document.toList).takeWhile isHeaderLine

/-- The lines of a document from that one on. -/
def bodyRegion (document : String) : List (List Char) :=
  (lines document.toList).dropWhile isHeaderLine

theorem lines_eq_regions (document : String) :
    lines document.toList = headerRegion document ++ bodyRegion document :=
  List.takeWhile_append_dropWhile.symm

theorem isHeaderLine_of_mem_headerRegion {document : String} :
    ∀ line ∈ headerRegion document, isHeaderLine line = true :=
  fun _ => List.mem_takeWhile_imp

theorem startsWithArgs_of_head? {body : List (List Char)}
    (h : ∀ line ∈ body.head?, isHeaderLine line = false) : StartsWithArgs body := by
  cases body with
  | nil => simp [StartsWithArgs]
  | cons first rest =>
    obtain ⟨hBlank, hComment⟩ := Bool.or_eq_false_iff.mp (h first rfl)
    intro line hLine
    rw [content_cons_of_ne_nil (by simpa using hBlank)] at hLine
    rw [← Option.some.inj hLine, hComment]

theorem startsWithArgs_dropWhile (ls : List (List Char)) :
    StartsWithArgs (ls.dropWhile isHeaderLine) := by
  refine startsWithArgs_of_head? fun line hLine => ?_
  have hHead := List.head?_dropWhile_not isHeaderLine ls
  rw [Option.mem_def.mp hLine] at hHead
  exact hHead

/-- Every document is read from its header lines and the content after them. -/
theorem Preset.parse_eq (document : String) :
    Preset.parse document =
      Preset.ofContent (headerRegion document) (content (bodyRegion document)) :=
  parse_eq_ofContent (lines_eq_regions document) isHeaderLine_of_mem_headerRegion
    (startsWithArgs_dropWhile (lines document.toList))

theorem Preset.exists_parse_eq (document : String) :
    ∃ header body, lines document.toList = header ++ body ∧
      (∀ line ∈ header, isHeaderLine line = true) ∧ StartsWithArgs body ∧
      Preset.parse document = Preset.ofContent header (content body) :=
  ⟨_, _, lines_eq_regions document, isHeaderLine_of_mem_headerRegion,
    startsWithArgs_dropWhile (lines document.toList), parse_eq document⟩

/-! ### Writing -/

/-- The argument lines of a block. -/
def Block.argLines (block : Block) : List (List Char) :=
  contentLines block.args.toList

/-- The argument lines that a preset is written with, without blank lines. -/
def Preset.bodyLines (preset : Preset) : List (List Char) :=
  contentLines preset.baseArgs.toList ++ joinGroups (preset.blocks.map Block.argLines)

theorem content_intercalate_separator (groups : List (List (List Char))) :
    content (List.intercalate [[], separator.toList, []] groups) =
      joinGroups (groups.map content) := by
  have hSeparator : content [[], separator.toList, []] = [separator.toList] := by decide
  induction groups with
  | nil => rfl
  | cons group rest ih =>
    by_cases hRest : rest = []
    · simp [hRest]
    · rw [List.intercalate_cons_of_ne_nil hRest, content_append, content_append, ih, hSeparator,
        List.map_cons, joinGroups_cons (by simp [hRest]), List.append_assoc,
        List.singleton_append]

theorem content_contentLines (text : List Char) :
    content (contentLines text) = contentLines text :=
  content_eq_self fun _ => isContent_of_mem_contentLines

namespace Preset

/-- The lines of a written preset after its header. -/
def bodyPart (preset : Preset) : List (List Char) :=
  preset.baseLines ++ List.intercalate [[], separator.toList, []]
    (preset.blocks.map Block.argLines)

theorem content_bodyPart (preset : Preset) : content preset.bodyPart = preset.bodyLines := by
  have hBase : content preset.baseLines = contentLines preset.baseArgs.toList := by
    rw [baseLines]
    split
    · rename_i h
      rw [h, content_nil]
    · rename_i h
      rw [content_append, content_contentLines]
      exact List.append_nil _
  rw [bodyPart, content_append, hBase, content_intercalate_separator, bodyLines, List.map_map]
  congr 2
  exact List.map_congr_left fun block _ => content_contentLines block.args.toList

theorem not_mem_of_mem_bodyPart {preset : Preset} {line : List Char} (h : line ∈ preset.bodyPart) :
    '\n' ∉ line := by
  have hContent {text line : List Char} (h : line ∈ contentLines text) : '\n' ∉ line :=
    (isContent_of_mem_contentLines h).noFeed
  rcases List.mem_append.mp h with h | h
  · rw [baseLines] at h
    split at h
    · simp at h
    · rcases List.mem_append.mp h with h | h
      · exact hContent h
      · simp [List.mem_singleton.mp h]
  · rcases mem_intercalate h with h | ⟨group, hGroup, h⟩
    · exact (by decide : ∀ line ∈ [[], separator.toList, []], '\n' ∉ line) line h
    · obtain ⟨block, -, rfl⟩ := List.mem_map.mp hGroup
      exact hContent h

theorem documentLines_eq (preset : Preset) (withHeader : Bool) :
    preset.documentLines withHeader =
      (if withHeader then preset.headerLines else []) ++ preset.bodyPart := by
  rw [documentLines, bodyPart, List.append_assoc]
  rfl

/-- A preset written without a header is read back from its argument lines alone. -/
theorem parse_render_false {preset : Preset}
    (hBody : ∀ line ∈ preset.bodyLines.head?, isComment line = false) :
    parse (preset.render false) = ofContent [] preset.bodyLines := by
  have hContent : content (lines (joinLines preset.bodyPart)) = preset.bodyLines := by
    rw [← contentLines_eq, contentLines_joinLines fun _ => not_mem_of_mem_bodyPart,
      content_bodyPart]
  have hLines : lines (preset.render false).toList = [] ++ lines (joinLines preset.bodyPart) := by
    rw [render, documentLines_eq, String.toList_ofList, if_neg (by decide), List.nil_append,
      List.nil_append]
  rw [parse_eq_ofContent hLines (by simp) (by rwa [StartsWithArgs, hContent]), hContent]

/-- A preset written with a header is read back from its header lines, which lose the carriage
returns that they end in, and its argument lines. -/
theorem parse_render_true {preset : Preset} {header : List (List Char)}
    (hHeader : preset.headerLines = header ++ [[]])
    (hLine : ∀ line ∈ header, '\n' ∉ line ∧ isHeaderLine line = true)
    (hBody : ∀ line ∈ preset.bodyLines.head?, isComment line = false) :
    parse (preset.render true) = ofContent (header.map withoutReturn) preset.bodyLines := by
  have hFeed : ∀ line ∈ [] :: preset.bodyPart, '\n' ∉ line := by
    intro line hMem
    rcases List.mem_cons.mp hMem with rfl | hMem
    · simp
    · exact not_mem_of_mem_bodyPart hMem
  have hContent : content (lines (joinLines ([] :: preset.bodyPart))) = preset.bodyLines := by
    rw [← contentLines_eq, contentLines_joinLines hFeed, content_cons_of_blank trim_nil,
      content_bodyPart]
  have hLines : lines (preset.render true).toList =
      header.map withoutReturn ++ lines (joinLines ([] :: preset.bodyPart)) := by
    rw [render, documentLines_eq, String.toList_ofList, if_pos rfl, hHeader, List.append_assoc,
      lines_joinLines_append (fun line hMem => (hLine line hMem).1) (by simp),
      List.singleton_append]
  have hKept : ∀ line ∈ header.map withoutReturn, isHeaderLine line = true :=
    isHeaderLine_of_mem_map fun line hMem => (hLine line hMem).2
  rw [parse_eq_ofContent hLines hKept (by rwa [StartsWithArgs, hContent]), hContent]

end Preset

end PresetCompiler
