import PresetCompiler.Proofs.Block.Flag
import PresetCompiler.Proofs.Preset.DocumentTokens
import PresetCompiler.Strategy.Matching

/-! The text of one block, read as a document and read by itself. Reading a document takes the
comments and the blanks around its lines away before it reads the fields of a block. The fields
agree with those of the text itself without its comments, up to the blanks around line feeds within
a quoted value (`parse_blockText`). -/

namespace PresetCompiler

open Text

/-! ### Fields of the content of a text -/

/-- What chooses the target of a block is found in the content of its text too, where a list file is
named without the blanks around its line feeds. -/
theorem readTarget_content (text : List Char) :
    readTarget (joinLines (contentLines text)) =
      match flagValue? "hostlist" text, flagValue? "ipset" text with
      | some path, _ => .ofFile .hostlist (squeeze path)
      | none, some path => .ofFile .ipset (squeeze path)
      | none, none => readTarget text := by
  rw [readTarget, readTarget, flagValue?_content (noBlank_of_all (by decide)),
    flagValue?_content (noBlank_of_all (by decide)),
    occursIn_content (noBlank_of_all (by decide)) (by decide),
    occursIn_content (noBlank_of_all (by decide)) (by decide)]
  cases flagValue? "hostlist" text with
  | some path => rfl
  | none => cases flagValue? "ipset" text <;> rfl

theorem targeting_content (text : List Char) :
    (readTarget (joinLines (contentLines text))).targeting = (readTarget text).targeting := by
  rw [readTarget_content, readTarget]
  cases flagValue? "hostlist" text with
  | some path => rfl
  | none => cases flagValue? "ipset" text <;> rfl

theorem listFile_content (text : List Char) :
    (readTarget (joinLines (contentLines text))).listFile =
      String.ofList (squeeze (readTarget text).listFile.toList) := by
  rw [readTarget_content, readTarget]
  cases flagValue? "hostlist" text with
  | some path => simp [Target.ofFile]
  | none =>
    cases flagValue? "ipset" text with
    | some path => simp [Target.ofFile]
    | none => split_ifs <;> rfl

theorem category_content {text : List Char} (h : HasTightBreaks (readTarget text).listFile.toList) :
    (readTarget (joinLines (contentLines text))).category = (readTarget text).category := by
  rw [readTarget_content]
  rw [readTarget] at h ⊢
  cases hHosts : flagValue? "hostlist" text with
  | some path =>
    have hTight : HasTightBreaks path := by simpa [hHosts, Target.ofFile] using h
    simp [squeeze_of_hasTightBreaks hTight]
  | none =>
    cases hSet : flagValue? "ipset" text with
    | some path =>
      have hTight : HasTightBreaks path := by simpa [hHosts, hSet, Target.ofFile] using h
      simp [squeeze_of_hasTightBreaks hTight]
    | none => rfl

theorem readProtocol_content (text : List Char) :
    readProtocol (joinLines (contentLines text)) =
      ((readProtocol text).1, String.ofList (squeeze (readProtocol text).2.toList)) := by
  have hDefault : String.ofList (squeeze defaultPorts.toList) = defaultPorts := by decide
  rw [readProtocol, readProtocol, flagValue?_content (noBlank_of_all (by decide)),
    flagValue?_content (noBlank_of_all (by decide)),
    flagValue?_content (noBlank_of_all (by decide))]
  cases flagValue? "filter-tcp" text with
  | some ports => simp
  | none =>
    cases flagValue? "filter-udp" text with
    | some ports => simp
    | none => cases flagValue? "filter-l7" text <;> simp [hDefault]

theorem ofList_squeeze_eq_iff {value : String} :
    String.ofList (squeeze value.toList) = value ↔ HasTightBreaks value.toList := by
  rw [← squeeze_eq_self_iff, ← String.toList_inj, String.toList_ofList]

/-- How a block that is read back compares with the block as it was written: the fields are the same
but for the blanks around line feeds within a quoted value. -/
structure Block.ReadsBack (block written : Block) : Prop where
  protocol : block.protocol = written.protocol
  targeting : block.targeting = written.targeting
  strategyArgs : block.strategyArgs = written.strategyArgs
  listFile : block.listFile = written.listFile ↔ HasTightBreaks written.listFile.toList
  category : HasTightBreaks written.listFile.toList → block.category = written.category
  ports : block.ports = written.ports ↔ HasTightBreaks written.ports.toList
  syndata : (∀ spec ∈ flagValue? "syndata" written.args.toList, HasTightBreaks spec) →
    block.syndata = written.syndata

namespace Block

section Fields

variable (args : String)

@[simp] theorem category_ofArgs : (ofArgs args).category = (readTarget args.toList).category := rfl

@[simp] theorem listFile_ofArgs : (ofArgs args).listFile = (readTarget args.toList).listFile := rfl

@[simp] theorem protocol_ofArgs : (ofArgs args).protocol = (readProtocol args.toList).1 := rfl

@[simp] theorem ports_ofArgs : (ofArgs args).ports = (readProtocol args.toList).2 := rfl

@[simp] theorem strategyArgs_ofArgs :
    (ofArgs args).strategyArgs = readStrategyArgs args.toList := rfl

@[simp] theorem syndata_ofArgs : (ofArgs args).syndata = readSyndata args.toList := rfl

end Fields

theorem readsBack_contentLines (args : String) :
    (ofLines (contentLines args.toList)).ReadsBack (ofArgs args) := by
  have hText : (String.ofList (joinLines (contentLines args.toList))).toList =
      joinLines (contentLines args.toList) := String.toList_ofList
  rw [ofLines]
  refine ⟨?protocol, ?targeting, ?strategyArgs, ?listFile, ?category, ?ports, ?syndata⟩
  case protocol =>
    rw [protocol_ofArgs, protocol_ofArgs, hText, readProtocol_content]
  case targeting =>
    simp only [ofArgs, hText, targeting_content]
  case strategyArgs =>
    rw [strategyArgs_ofArgs, strategyArgs_ofArgs, hText, readStrategyArgs, readStrategyArgs,
      contentLines_joinLines_self fun _ => isContent_of_mem_contentLines]
  case listFile =>
    rw [listFile_ofArgs, listFile_ofArgs, hText, listFile_content, ofList_squeeze_eq_iff]
  case category =>
    intro hTight
    rw [category_ofArgs, category_ofArgs, hText, category_content hTight]
  case ports =>
    rw [ports_ofArgs, ports_ofArgs, hText, readProtocol_content, ofList_squeeze_eq_iff]
  case syndata =>
    intro hTight
    rw [syndata_ofArgs, syndata_ofArgs, hText, readSyndata, readSyndata,
      flagValue?_content (noBlank_of_all (by decide))]
    cases hSpec : flagValue? "syndata" args.toList with
    | none => rfl
    | some spec => rw [Option.map_some, squeeze_of_hasTightBreaks (hTight spec hSpec)]

end Block

/-! ### Documents of one block -/

/-- The text of one block: it begins with a filter line, and no line of it is a separator. -/
@[mk_iff] structure IsBlockText (text : List Char) : Prop where
  opens : (contentLines text).head?.any opensBlock = true
  noSeparator : separator.toList ∉ contentLines text

instance : DecidablePred IsBlockText := fun text => decidable_of_iff' _ (isBlockText_iff text)

/-- The text without the lines that are comments. -/
def withoutComments (document : String) : String :=
  String.ofList ((endedLines document.toList).filter fun line => !isComment (trim line)).flatten

theorem contentLines_withoutComments (document : String) :
    contentLines (withoutComments document).toList = plainLines (lines document.toList) := by
  have hKept := (endsLines_endedLines document.toList).sublist
    (List.filter_sublist (p := fun line => !isComment (trim line)))
  calc contentLines (withoutComments document).toList
      = content ((endedLines document.toList).filter fun line => !isComment (trim line)) := by
        rw [withoutComments, String.toList_ofList, hKept.contentLines_flatten]
    _ = (content (endedLines document.toList)).filter fun line => !isComment line := by
        rw [content, content, List.filter_comm, List.filter_map (p := fun line => !isComment line)]
        rfl
    _ = plainLines (lines document.toList) := by rw [content_endedLines]; rfl

theorem withoutComments_eq_self {document : String}
    (h : ∀ line ∈ contentLines document.toList, isComment line = false) :
    withoutComments document = document := by
  have hAll : ∀ line ∈ endedLines document.toList, (!isComment (trim line)) = true := by
    intro line hLine
    by_cases hBlank : trim line = []
    · rw [hBlank]
      rfl
    · have hMem : trim line ∈ contentLines document.toList := by
        rw [← content_endedLines]
        exact List.mem_filter.mpr ⟨List.mem_map_of_mem hLine, by simpa using hBlank⟩
      rw [h (trim line) hMem]
      rfl
  rw [withoutComments, List.filter_eq_self.mpr hAll, flatten_endedLines, String.ofList_toList]

theorem IsBlockText.exists_opening {text : List Char} (h : IsBlockText text) :
    ∃ line rest, contentLines text = line :: rest ∧ opensBlock line = true := by
  obtain ⟨line, hHead, hOpens⟩ := (Option.any_eq_true _ _).mp h.opens
  obtain ⟨rest, hLines⟩ := List.head?_eq_some_iff.mp hHead
  exact ⟨line, rest, hLines, hOpens⟩

theorem not_isComment_of_opensBlock {line : List Char} (h : IsContent line)
    (hOpens : opensBlock line = true) : isComment line = false := by
  rw [isComment, ← h.trim_eq, head?_of_opensBlock hOpens]
  decide

/-- The lines of the text of one block that are not comments are one group. -/
theorem IsBlockText.argGroups_eq {text : List Char} (h : IsBlockText text) :
    argGroups (contentLines text) = [plainLines (lines text)] := by
  obtain ⟨line, rest, hLines, hOpens⟩ := h.exists_opening
  have hPlain : plainLines (lines text) =
      (contentLines text).filter fun line => !isComment line := rfl
  have hComment : isComment line = false :=
    not_isComment_of_opensBlock (isContent_of_mem_contentLines (hLines ▸ List.mem_cons_self)) hOpens
  have hNil : plainLines (lines text) ≠ [] := by
    rw [hPlain, hLines, List.filter_cons_of_pos (by rw [hComment]; rfl)]
    exact List.cons_ne_nil _ _
  rw [argGroups, ← hPlain, pieces_eq_singleton, List.filter_singleton]
  · simp [hNil]
  · intro other hOther
    have hMem : other ∈ contentLines text := (List.mem_filter.mp hOther).1
    have hne : other ≠ separator.toList := fun hSame => h.noSeparator (hSame ▸ hMem)
    simpa using hne

theorem blocks_parse_of_isBlockText {document : String} (h : IsBlockText document.toList) :
    (Preset.parse document).blocks =
      [Block.ofLines (contentLines (withoutComments document).toList)] := by
  obtain ⟨line, rest, hLines, hOpens⟩ := h.exists_opening
  have hRegion : content (blockRegion document) = contentLines document.toList := by
    rw [content_blockRegion, hLines, List.dropWhile_cons_of_neg (by simp [staysBase, hOpens])]
  have hRaw : rawBlocks document = [Block.ofLines (plainLines (lines document.toList))] := by
    rw [rawBlocks_eq, hRegion, h.argGroups_eq, List.map_singleton]
  rw [blocks_parse, hRaw, contentLines_withoutComments, Block.merge_eq_self (by simp)]

theorem not_framing_of_isComment {line : List Char} (h : isComment line = true) :
    startsWithAny (framingLeads.map String.toList) line = false := by
  by_contra hFraming
  obtain ⟨lead, hLead, rest, rfl⟩ := startsWithAny_iff.mp (Bool.not_eq_false _ ▸ hFraming)
  revert lead
  simp [framingLeads, isComment, commentMark]

/-- Comments count among the strategy arguments of a text. -/
theorem readStrategyArgs_withoutComments_iff (document : String) :
    readStrategyArgs (withoutComments document).toList = readStrategyArgs document.toList ↔
      ∀ line ∈ contentLines document.toList, isComment line = false := by
  refine ⟨fun hSame line hLine => ?_, fun hNone => by rw [withoutComments_eq_self hNone]⟩
  by_contra hComment
  rw [Bool.not_eq_false] at hComment
  let isKept (line : List Char) : Bool := !startsWithAny (framingLeads.map String.toList) line
  have hContent {ls : List (List Char)} (hSub : ls ⊆ contentLines document.toList) :
      contentLines (joinLines ls) = ls :=
    contentLines_joinLines_self fun line hMem => isContent_of_mem_contentLines (hSub hMem)
  have hPlain : plainLines (lines document.toList) ⊆ contentLines document.toList :=
    List.filter_subset_self _
  have hLists : (plainLines (lines document.toList)).filter isKept =
      (contentLines document.toList).filter isKept := by
    rw [← hContent (List.Subset.trans (List.filter_subset_self _) hPlain),
      ← hContent (List.filter_subset_self (contentLines document.toList))]
    rw [readStrategyArgs, readStrategyArgs, contentLines_withoutComments,
      String.ofList_inj] at hSame
    exact congrArg contentLines hSame
  have hKept : line ∈ (plainLines (lines document.toList)).filter isKept := by
    rw [hLists]
    exact List.mem_filter.mpr ⟨hLine, by simp [isKept, not_framing_of_isComment hComment]⟩
  have hNot := (List.mem_filter.mp (List.mem_filter.mp hKept).1).2
  rw [hComment] at hNot
  contradiction

namespace Block.ReadsBack

variable {block written : Block} (h : block.ReadsBack written)
  (hTight : HasTightBreaks written.listFile.toList)
include h hTight

theorem key : block.key = written.key := by
  rw [Block.key, Block.key, h.category hTight, h.protocol]

theorem findForBlock? (source : StrategySource) :
    source.findForBlock? block = source.findForBlock? written := by
  rw [StrategySource.findForBlock?, StrategySource.findForBlock?, h.protocol, h.category hTight,
    h.strategyArgs]

end Block.ReadsBack

/-- The text of one block is read as a document of one block. Its fields are those of the text
without its comments, as far as no quoted value goes on over a line feed with blanks around it. -/
theorem parse_blockText {document : String} (h : IsBlockText document.toList) :
    ∃ block, (Preset.parse document).blocks = [block] ∧
      block.ReadsBack (Block.ofArgs (withoutComments document)) ∧
      (block.strategyArgs = (Block.ofArgs document).strategyArgs ↔
        ∀ line ∈ contentLines document.toList, isComment line = false) ∧
      ((∀ line ∈ contentLines document.toList, isComment line = false) →
        let written := Block.ofArgs document
        block.ReadsBack written ∧
          (HasTightBreaks written.listFile.toList → block.key = written.key ∧
            ∀ source : StrategySource,
              source.findForBlock? block = source.findForBlock? written)) := by
  have hBack := Block.readsBack_contentLines (withoutComments document)
  refine ⟨_, blocks_parse_of_isBlockText h, hBack, ?_, fun hNone => ?_⟩
  · rw [hBack.strategyArgs]
    exact readStrategyArgs_withoutComments_iff document
  · rw [withoutComments_eq_self hNone] at hBack ⊢
    exact ⟨hBack, fun hTight => ⟨hBack.key hTight, hBack.findForBlock? hTight⟩⟩

/-- A line that is indented, a value in quotes, and an indented comment. -/
theorem parse_blockText_indented :
    let document := "  --filter-udp=443\r\n\n --hostlist=\"my list.txt\"\n # \n--syndata=a:1,b"
    IsBlockText document.toList ∧ ∃ block, (Preset.parse document).blocks = [block] ∧
      block.ReadsBack (Block.ofArgs (withoutComments document)) := by
  intro document
  have h : IsBlockText document.toList := by decide +kernel
  obtain ⟨block, hBlocks, hBack, -⟩ := parse_blockText h
  exact ⟨h, block, hBlocks, hBack⟩

/-- A comment that names a list file gives a text the category that its block in the document does
not have. Blanks around the line feed within the name of a list file make up a category too. -/
theorem parse_blockText_ne :
    let commented := "--filter-tcp=443\n# --hostlist=a.txt"
    let broken := "--filter-tcp=443\n--hostlist=\"a \n b.txt\""
    (IsBlockText commented.toList ∧ (Block.ofArgs commented).category = "a" ∧
        (Preset.parse commented).blocks.map Block.category = ["unknown"]) ∧
      IsBlockText broken.toList ∧ (Block.ofArgs broken).category = "a \n b" ∧
        (Preset.parse broken).blocks.map Block.category = ["a\nb"] := by
  decide +kernel

end PresetCompiler
