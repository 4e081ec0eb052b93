import PresetCompiler.Proofs.Block.ItemValues
import PresetCompiler.Proofs.Preset.SingleBlock
import PresetCompiler.Proofs.Strategy.Matching

/-! A strategy is recovered from the document that uses it. A filter line and a target line in front
of the arguments of a strategy make a document of one block, and the strategy found for this block
is the least one of its category with the same words (`findForBlock?_framed`). -/

namespace PresetCompiler

open Text

/-- A value that can be written without quotes. -/
structure IsBare (value : String) : Prop where
  ne_nil : value.toList ≠ []
  noBlank : ∀ c ∈ value.toList, isBlank c = false
  noQuote : '"' ∉ value.toList

def filterNames : List String := ["filter-tcp", "filter-udp", "filter-l7"]

/-- The flags that name a list file, by name. -/
def targetNames : List String := ["hostlist", "ipset"]

/-- What the text of a strategy does without. -/
def framingMarks : List String := ["--filter-", "--hostlist", "--ipset"]

/-- The arguments of a strategy as they may stand in a block: they choose no targets, and no line of
them is a comment or a separator. -/
@[mk_iff] structure IsFrameable (args : String) : Prop where
  noMark : ∀ mark ∈ framingMarks, occursIn mark.toList args.toList = false
  line : ∀ line ∈ lines args.toList, isComment (trim line) = false ∧ trim line ≠ separator.toList

instance : DecidablePred IsFrameable := fun args => decidable_of_iff' _ (isFrameable_iff args)

def flagLine (name value : String) : String :=
  "--" ++ name ++ "=" ++ value

/-- A document with a filter line, a target line and the arguments of a strategy. -/
def framed (filter ports target file args : String) : String :=
  flagLine filter ports ++ "\n" ++ flagLine target file ++ "\n" ++ args

theorem toList_flagLine (name value : String) :
    (flagLine name value).toList = '-' :: '-' :: (name.toList ++ '=' :: value.toList) := by
  simp [flagLine]

theorem toList_framed (filter ports target file args : String) :
    (framed filter ports target file args).toList =
      (flagLine filter ports).toList ++
        '\n' :: ((flagLine target file).toList ++ '\n' :: args.toList) := by
  simp [framed]

/-! ### The lines of a framed document -/

theorem framing_flagLine {name : String} (h : name ∈ filterNames ++ targetNames) (value : String) :
    startsWithAny (framingLeads.map String.toList) (flagLine name value).toList = true ∧
      isComment (flagLine name value).toList = false ∧
      (flagLine name value).toList ≠ separator.toList := by
  simp only [filterNames, targetNames, List.cons_append, List.nil_append, List.mem_cons,
    List.not_mem_nil, or_false] at h
  rcases h with rfl | rfl | rfl | rfl | rfl <;>
    simp [flagLine, startsWithAny, framingLeads, startsWith, after?, isComment, commentMark,
      separator]

theorem startsWithAny_filterLeads_flagLine {name : String} (h : name ∈ filterNames)
    (value : String) :
    startsWithAny (filterLeads.map String.toList) (flagLine name value).toList = true := by
  simp only [filterNames, List.mem_cons, List.not_mem_nil, or_false] at h
  rcases h with rfl | rfl | rfl <;>
    simp [flagLine, startsWithAny, filterLeads, startsWith, after?]

section Args

variable {args : String} (h : IsFrameable args)
include h

theorem IsFrameable.isArgLine {line : List Char} (hLine : line ∈ contentLines args.toList) :
    IsArgLine line := by
  obtain ⟨hMem, -⟩ := List.mem_filter.mp hLine
  obtain ⟨raw, hRaw, rfl⟩ := List.mem_map.mp hMem
  exact ⟨isContent_of_mem_contentLines hLine, (h.line raw hRaw).1, (h.line raw hRaw).2⟩

theorem IsFrameable.not_framing {line : List Char} (hLine : line ∈ contentLines args.toList) :
    startsWithAny (framingLeads.map String.toList) line = false := by
  by_contra hFraming
  obtain ⟨lead, hLead, rest, hText⟩ := startsWithAny_iff.mp (Bool.not_eq_false _ ▸ hFraming)
  have hMarks : ∀ lead ∈ framingLeads, ∃ mark ∈ framingMarks, mark.toList <+: lead.toList := by
    decide
  have hPlain : ∀ mark ∈ framingMarks,
      (mark.toList.all fun c => !isBlank c) = true ∧ mark.toList ≠ [] := by decide
  obtain ⟨mark, hMark, hPrefix⟩ := hMarks lead hLead
  have hStart : mark.toList <:+: line := hPrefix.isInfix.trans ⟨[], rest, hText.symm⟩
  have hOccurs := occursIn_iff.mpr (hStart.trans (infix_joinLines hLine))
  rw [occursIn_content (noBlank_of_all (hPlain mark hMark).1) (hPlain mark hMark).2,
    h.noMark mark hMark] at hOccurs
  contradiction

theorem IsFrameable.flagValue?_eq_none {name : String} (hName : name ∈ filterNames ++ targetNames) :
    flagValue? name args.toList = none := by
  have hMarks : ∀ name ∈ filterNames ++ targetNames,
      ∃ mark ∈ framingMarks, mark.toList <+: flagLead name := by decide
  obtain ⟨mark, hMark, hPrefix⟩ := hMarks name hName
  refine findValue?_of_not_occursIn ?_ true
  by_contra hOccurs
  have hInfix := hPrefix.isInfix.trans (occursIn_iff.mp (Bool.not_eq_false _ ▸ hOccurs))
  rw [← occursIn_iff, h.noMark mark hMark] at hInfix
  contradiction

end Args

section Line

variable {name value : String} (hName : name ∈ filterNames ++ targetNames) (hValue : IsBare value)
include hName hValue

theorem isWritten_flagLine : (Item.word (flagLine name value).toList).IsWritten := by
  have hPlain : (name.toList.all fun c => !isBlank c) = true ∧ '"' ∉ name.toList := by
    revert name
    decide
  refine .word (by simp [toList_flagLine]) (fun c hc => ?_) ?_
  · simp only [toList_flagLine, List.mem_cons, List.mem_append] at hc
    rcases hc with rfl | rfl | hc | rfl | hc
    · decide
    · decide
    · exact noBlank_of_all hPlain.1 c hc
    · decide
    · exact hValue.noBlank c hc
  · simp [toList_flagLine, hPlain.2, hValue.noQuote]

theorem isContent_flagLine : IsContent (flagLine name value).toList := by
  cases isWritten_flagLine hName hValue with
  | word ne_nil noBlank _ =>
    refine ⟨ne_nil, ?_, fun hFeed => ?_⟩
    · rw [trim_eq_self_iff]
      exact ⟨fun c hc => noBlank c (List.mem_of_mem_head? hc),
        fun c hc => noBlank c (List.mem_of_getLast? hc)⟩
    · exact absurd (noBlank '\n' hFeed) (by decide)

theorem content_flagLine :
    content [(flagLine name value).toList] = [(flagLine name value).toList] :=
  content_eq_self fun _ hLine => List.mem_singleton.mp hLine ▸ isContent_flagLine hName hValue

theorem tokenValue?_flagLine {other : String} (hOther : '=' ∉ other.toList) :
    tokenValue? (flagLead other) (flagLine name value).toList =
      if other = name then some value.toList else none := by
  have hSign : '=' ∉ name.toList := by
    revert name
    decide
  rw [tokenValue?, toList_flagLine, after?_flagLead hOther hSign]
  by_cases hSame : other = name
  · rw [if_pos hSame, if_pos (congrArg String.toList hSame), Option.filter_some,
      if_pos (by simpa using hValue.ne_nil)]
  · rw [if_neg hSame, if_neg fun hList => hSame (String.toList_inj.mp hList), Option.filter_none]

end Line

section Framed

variable {filter ports target file args : String} (hFilter : filter ∈ filterNames)
  (hTarget : target ∈ targetNames) (hPorts : IsBare ports) (hFile : IsBare file)
  (hArgs : IsFrameable args)
include hFilter hTarget hPorts hFile

theorem contentLines_framed :
    contentLines (framed filter ports target file args).toList =
      (flagLine filter ports).toList :: (flagLine target file).toList ::
        contentLines args.toList := by
  have hFilter := List.mem_append_left targetNames hFilter
  have hTarget := List.mem_append_right filterNames hTarget
  rw [toList_framed, contentLines_append_feed (isContent_flagLine hFilter hPorts).noFeed,
    contentLines_append_feed (isContent_flagLine hTarget hFile).noFeed,
    content_flagLine hFilter hPorts, content_flagLine hTarget hFile]
  rfl

/-- The value of a flag in a framed document is the one in its first two lines, or else the one in
the arguments. -/
theorem flagValue?_framed {name : String} (hBlank : ∀ c ∈ name.toList, isBlank c = false)
    (hSign : '=' ∉ name.toList) :
    flagValue? name (framed filter ports target file args).toList =
      if name = filter then some ports.toList
      else if name = target then some file.toList
      else flagValue? name args.toList := by
  have hFilter := List.mem_append_left targetNames hFilter
  have hTarget := List.mem_append_right filterNames hTarget
  have hFeed (rest : List Char) : ∀ c ∈ ('\n' :: rest).head?, isBlank c = true := by
    rintro c ⟨⟩
    exact isBlank_feed
  have hLead := isLead_flagLead hBlank
  rw [flagValue?_eq, toList_framed,
    findValue?_item_word hBlank (isWritten_flagLine hFilter hPorts) (hFeed _),
    findValue?_cons_blank hLead isBlank_feed,
    findValue?_item_word hBlank (isWritten_flagLine hTarget hFile) (hFeed _),
    findValue?_cons_blank hLead isBlank_feed, tokenValue?_flagLine hFilter hPorts hSign,
    tokenValue?_flagLine hTarget hFile hSign]
  by_cases hFirst : name = filter
  · rw [if_pos hFirst, if_pos hFirst, Option.some_or]
  · rw [if_neg hFirst, if_neg hFirst, Option.none_or]
    by_cases hSecond : name = target
    · rw [if_pos hSecond, if_pos hSecond, Option.some_or]
    · rw [if_neg hSecond, if_neg hSecond, Option.none_or, flagValue?_eq]

include hArgs

theorem isBlockText_framed : IsBlockText (framed filter ports target file args).toList := by
  have hFirst := List.mem_append_left targetNames hFilter
  have hSecond := List.mem_append_right filterNames hTarget
  have hLines : contentLines (framed filter ports target file args).toList = _ :=
    contentLines_framed hFilter hTarget hPorts hFile
  refine ⟨?_, fun hSeparator => ?_⟩
  · rw [hLines, List.head?_cons, Option.any_some, opensBlock,
      (isContent_flagLine hFirst hPorts).trim_eq]
    exact startsWithAny_filterLeads_flagLine hFilter ports
  · rw [hLines, List.mem_cons, List.mem_cons] at hSeparator
    rcases hSeparator with hSame | hSame | hMem
    · exact (framing_flagLine hFirst ports).2.2 hSame.symm
    · exact (framing_flagLine hSecond file).2.2 hSame.symm
    · exact (hArgs.isArgLine hMem).notSeparator rfl

theorem not_isComment_framed :
    ∀ line ∈ contentLines (framed filter ports target file args).toList,
      isComment line = false := by
  have hFirst := List.mem_append_left targetNames hFilter
  have hSecond := List.mem_append_right filterNames hTarget
  intro line hLine
  rw [contentLines_framed hFilter hTarget hPorts hFile, List.mem_cons, List.mem_cons] at hLine
  rcases hLine with rfl | rfl | hMem
  · exact (framing_flagLine hFirst ports).2.1
  · exact (framing_flagLine hSecond file).2.1
  · exact (hArgs.isArgLine hMem).notComment

theorem readStrategyArgs_framed :
    readStrategyArgs (framed filter ports target file args).toList =
      String.ofList (joinLines (contentLines args.toList)) := by
  have hFirst := List.mem_append_left targetNames hFilter
  have hSecond := List.mem_append_right filterNames hTarget
  have hKept : (contentLines args.toList).filter
      (fun line => !startsWithAny (framingLeads.map String.toList) line) =
        contentLines args.toList :=
    List.filter_eq_self.mpr fun line hLine => by rw [hArgs.not_framing hLine]; rfl
  rw [readStrategyArgs, contentLines_framed hFilter hTarget hPorts hFile,
    List.filter_cons_of_neg (by rw [(framing_flagLine hFirst ports).1]; decide),
    List.filter_cons_of_neg (by rw [(framing_flagLine hSecond file).1]; decide), hKept]

theorem readTarget_framed :
    (readTarget (framed filter ports target file args).toList).listFile = file ∧
      (readTarget (framed filter ports target file args).toList).category =
        categoryOfPath file.toList := by
  have hApart : ∀ name ∈ targetNames, name ≠ filter := by
    rintro name hName rfl
    revert name
    decide
  have hHosts : flagValue? "hostlist" (framed filter ports target file args).toList = _ :=
    flagValue?_framed hFilter hTarget hPorts hFile (noBlank_of_all (by decide)) (by decide)
  have hSet : flagValue? "ipset" (framed filter ports target file args).toList = _ :=
    flagValue?_framed hFilter hTarget hPorts hFile (noBlank_of_all (by decide)) (by decide)
  have hNone : flagValue? "hostlist" args.toList = none := hArgs.flagValue?_eq_none (by decide)
  rw [if_neg (hApart _ (by decide))] at hHosts hSet
  rw [readTarget, hHosts, hSet]
  simp only [targetNames, List.mem_cons, List.not_mem_nil, or_false] at hTarget
  rcases hTarget with rfl | rfl
  · exact ⟨String.ofList_toList, rfl⟩
  · rw [if_neg (by decide), hNone]
    exact ⟨String.ofList_toList, rfl⟩

end Framed

/-- In a framed document the arguments of a strategy are recovered as the least strategy of the
category with the same words, which is the strategy itself when no lesser one has them. -/
theorem findForBlock?_framed {catalog : Catalog} {category id : String}
    {filter ports target file args : String} (hLookup : catalog.args category id = .ok args)
    (hFilter : filter ∈ filterNames) (hTarget : target ∈ targetNames) (hPorts : IsBare ports)
    (hFile : IsBare file) (hCategory : categoryOfPath file.toList = category)
    (hWords : normalizeArgs args ≠ "") (hArgs : IsFrameable args) :
    let wanted := normalizeArgs args
    ∃ block best, (Preset.parse (framed filter ports target file args)).blocks = [block] ∧
      catalog.source.findForBlock? block = some best ∧
      catalog.source.HasWords category wanted best ∧
      (∀ other, catalog.source.HasWords category wanted other → best ≤ other) ∧
      ((∀ other < id, ¬catalog.source.HasWords category wanted other) → best = id) := by
  intro wanted
  have hNone := not_isComment_framed hFilter hTarget hPorts hFile hArgs
  have hText := isBlockText_framed hFilter hTarget hPorts hFile hArgs
  have hBlocks := blocks_parse_of_isBlockText hText
  obtain ⟨hListFile, hRead⟩ := readTarget_framed hFilter hTarget hPorts hFile hArgs
  rw [withoutComments_eq_self hNone] at hBlocks
  have hBack := Block.readsBack_contentLines (framed filter ports target file args)
  generalize Block.ofLines (contentLines (framed filter ports target file args).toList) = block
    at hBlocks hBack
  have hBlockCategory : block.category = category := by
    rw [hBack.category, Block.category_ofArgs, hRead, hCategory]
    rw [Block.listFile_ofArgs, hListFile, ← squeeze_eq_self_iff]
    exact squeeze_of_not_mem fun hFeed => absurd (hFile.noBlank '\n' hFeed) (by decide)
  have hBlockWords : normalizeArgs block.strategyArgs = wanted := by
    rw [hBack.strategyArgs, Block.strategyArgs_ofArgs,
      readStrategyArgs_framed hFilter hTarget hPorts hFile hArgs, normalizeArgs_contentLines]
  have hId : catalog.source.HasWords category wanted id := ⟨args, hLookup, rfl⟩
  obtain ⟨best, hBest⟩ := Catalog.exists_find? hId
  obtain ⟨hHas, hLeast⟩ := Catalog.least_of_find? hBest
  refine ⟨block, best, hBlocks, ?_, hHas, hLeast, fun hLesser => ?_⟩
  · rw [StrategySource.findForBlock?_eq hBlockWords hWords, hBlockCategory]
    exact hBest
  · have hNotLess : ¬best < id := fun hLess => hLesser best hLess hHas
    exact String.le_antisymm (hLeast id hId) (String.not_lt.mp hNotLess)

/-- The entry in front cannot be looked up, and the one behind has the same words. -/
theorem findForBlock?_framed_between :
    let args := "--dpi-desync=Fake\n\n  --x"
    let catalog : Catalog := ⟨.ofList [("youtube", .ofList [("a", .integer 1), ("b", .string args),
      ("c", .table [("args", .string "--dpi-desync=fake --X")])])]⟩
    ∃ block, (Preset.parse (framed "filter-udp" "443" "ipset" "ipset-YouTube.txt" args)).blocks =
        [block] ∧
      catalog.source.findForBlock? block = some "b" := by
  intro args catalog
  have hIds : catalog.ids "youtube" = ["a", "b", "c"] := by decide +kernel
  have hLookup : catalog.args "youtube" "b" = .ok args := by decide +kernel
  have hMalformed : (catalog.source.args "youtube" "a").toOption = none := by decide +kernel
  have hLesser : ∀ other < "b",
      ¬catalog.source.HasWords "youtube" (normalizeArgs args) other := by
    rintro other hLess ⟨text, hText, -⟩
    have hMem := Catalog.mem_ids_of_args hText
    rw [hIds, List.mem_cons, List.mem_pair] at hMem
    rcases hMem with rfl | rfl | rfl
    · rw [hText] at hMalformed
      contradiction
    · exact String.lt_irrefl _ hLess
    · exact absurd hLess (by decide)
  have hPorts : IsBare "443" := ⟨by decide, noBlank_of_all (by decide), by decide⟩
  have hFile : IsBare "ipset-YouTube.txt" := ⟨by decide, noBlank_of_all (by decide), by decide⟩
  have hFilter : "filter-udp" ∈ filterNames := by decide
  have hTarget : "ipset" ∈ targetNames := by decide
  obtain ⟨block, best, hBlocks, hBest, -, -, hSame⟩ :=
    findForBlock?_framed hLookup hFilter hTarget hPorts hFile (by decide +kernel)
      (by decide +kernel) (by decide +kernel)
  rw [hSame hLesser] at hBest
  exact ⟨block, hBlocks, hBest⟩

end PresetCompiler
