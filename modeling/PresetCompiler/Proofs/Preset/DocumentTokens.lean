import PresetCompiler.Proofs.Preset.Body
import PresetCompiler.Proofs.Text.Segments
import PresetCompiler.Proofs.Tokens

/-! The tokens of a preset as the tokens of its document. When no two blocks of a document have the
same key, the preset launches what the document says, in its order, up to the separators that
separate nothing. -/

namespace PresetCompiler

open Text

/-! ### Idle separators -/

/-- Whether an argument line comes before the next separator. -/
def meetsArgs : List (List Char) → Bool
  | [] => false
  | line :: rest =>
    if trim line = separator.toList then false
    else if isHeaderLine line then meetsArgs rest
    else true

/-- The lines without the separators that are followed by no argument line before the next
separator or the end. -/
def dropIdle : List (List Char) → List (List Char)
  | [] => []
  | line :: rest =>
    if trim line = separator.toList ∧ meetsArgs rest = false then dropIdle rest
    else line :: dropIdle rest

theorem dropIdle_sublist (ls : List (List Char)) : (dropIdle ls).Sublist ls := by
  induction ls with
  | nil => exact .slnil
  | cons line rest ih =>
    rw [dropIdle]
    split
    · exact ih.cons line
    · exact ih.cons_cons line

/-- The trimmed lines that are neither blank nor comments. -/
def plainLines (ls : List (List Char)) : List (List Char) :=
  (content ls).filter fun line => !isComment line

theorem plainLines_cons_of_isHeaderLine {line : List Char} (h : isHeaderLine line = true)
    (rest : List (List Char)) : plainLines (line :: rest) = plainLines rest := by
  rcases Bool.or_eq_true_iff.mp h with hBlank | hComment
  · rw [plainLines, content_cons_of_blank (by simpa using hBlank), plainLines]
  · by_cases hBlank : trim line = []
    · rw [plainLines, content_cons_of_blank hBlank, plainLines]
    · simp [plainLines, content, hBlank, hComment]

theorem plainLines_cons {line : List Char} (h : isHeaderLine line = false)
    (rest : List (List Char)) : plainLines (line :: rest) = trim line :: plainLines rest := by
  obtain ⟨hBlank, hComment⟩ := Bool.or_eq_false_iff.mp h
  simp only [decide_eq_false_iff_not] at hBlank
  simp [plainLines, content, hBlank, hComment]

theorem isHeaderLine_trim (line : List Char) : isHeaderLine (trim line) = isHeaderLine line := by
  rw [isHeaderLine, isHeaderLine, trim_trim]

theorem ne_separator_of_isHeaderLine {line : List Char} (h : isHeaderLine line = true) :
    trim line ≠ separator.toList := by
  intro hSeparator
  rw [isHeaderLine, hSeparator] at h
  exact absurd h (by decide)

theorem meetsArgs_plainLines (ls : List (List Char)) :
    meetsArgs (plainLines ls) = meetsArgs ls := by
  induction ls with
  | nil => rfl
  | cons line rest ih =>
    by_cases hHeader : isHeaderLine line = true
    · rw [plainLines_cons_of_isHeaderLine hHeader, meetsArgs,
        if_neg (ne_separator_of_isHeaderLine hHeader), if_pos hHeader, ih]
    · rw [Bool.not_eq_true] at hHeader
      rw [plainLines_cons hHeader, meetsArgs, meetsArgs, trim_trim, isHeaderLine_trim, ih]

/-- Idle separators may be dropped before or after blank lines and comments. -/
theorem plainLines_dropIdle (ls : List (List Char)) :
    plainLines (dropIdle ls) = dropIdle (plainLines ls) := by
  induction ls with
  | nil => rfl
  | cons line rest ih =>
    by_cases hHeader : isHeaderLine line = true
    · rw [dropIdle, if_neg fun h => ne_separator_of_isHeaderLine hHeader h.1,
        plainLines_cons_of_isHeaderLine hHeader, plainLines_cons_of_isHeaderLine hHeader, ih]
    · rw [Bool.not_eq_true] at hHeader
      rw [plainLines_cons hHeader, dropIdle, dropIdle, trim_trim, meetsArgs_plainLines]
      split
      · exact ih
      · rw [plainLines_cons hHeader, ih]

/-- Without blank lines and comments, what remains are the lines up to the first separator and each
later group that is not empty, with one separator in front. -/
theorem dropIdle_eq (ls : List (List Char)) (h : ∀ line ∈ ls, trim line = line)
    (hPlain : ∀ line ∈ ls, isHeaderLine line = false) :
    ∃ first rest, pieces (· = separator.toList) ls = first :: rest ∧
      (meetsArgs ls = true ↔ first ≠ []) ∧
      dropIdle ls = first ++ (rest.filter (· ≠ [])).flatMap (separator.toList :: ·) := by
  induction ls with
  | nil => exact ⟨[], [], rfl, by simp [meetsArgs], rfl⟩
  | cons line ls ih =>
    obtain ⟨first, rest, hPieces, hMeets, hDrop⟩ :=
      ih (fun l hl => h l (List.mem_cons_of_mem line hl))
        fun l hl => hPlain l (List.mem_cons_of_mem line hl)
    have hTrim : trim line = line := h line List.mem_cons_self
    by_cases hSeparator : line = separator.toList
    · refine ⟨[], first :: rest, ?_, ?_, ?_⟩
      · rw [pieces, if_pos (by simpa using hSeparator), hPieces]
      · rw [meetsArgs, if_pos (hTrim.trans hSeparator)]
        simp
      · -- The separator stays exactly when the group after it is not empty.
        rw [dropIdle, hTrim, hDrop]
        by_cases hFirst : first = []
        · have hIdle : meetsArgs ls = false := by simpa [hFirst] using hMeets
          rw [if_pos ⟨hSeparator, hIdle⟩, hFirst]
          rfl
        · have hBusy : meetsArgs ls = true := hMeets.mpr hFirst
          rw [if_neg (by simp [hBusy]), List.filter_cons_of_pos (by simpa using hFirst),
            hSeparator]
          rfl
    · refine ⟨line :: first, rest, ?_, ?_, ?_⟩
      · rw [pieces, if_neg (by simpa using hSeparator), hPieces]
      · simp [meetsArgs, hTrim, hSeparator, hPlain line List.mem_cons_self]
      · rw [dropIdle, if_neg fun hIdle => hSeparator (hTrim ▸ hIdle.1), hDrop]
        rfl

theorem joinGroups_eq (first : List (List Char)) (rest : List (List (List Char))) :
    joinGroups (first :: rest) = first ++ rest.flatMap (separator.toList :: ·) := by
  induction rest generalizing first with
  | nil => simp
  | cons second rest ih =>
    rw [joinGroups_cons (List.cons_ne_nil _ _), ih second, List.flatMap_cons, List.cons_append]

theorem mem_plainLines {ls : List (List Char)} {line : List Char} (h : line ∈ plainLines ls) :
    trim line = line ∧ isHeaderLine line = false := by
  obtain ⟨hContent, hComment⟩ := List.mem_filter.mp h
  obtain ⟨hMem, hNil⟩ := List.mem_filter.mp hContent
  obtain ⟨raw, -, rfl⟩ := List.mem_map.mp hMem
  refine ⟨trim_trim raw, ?_⟩
  rw [isHeaderLine, trim_trim]
  simpa using ⟨by simpa using hNil, by simpa using hComment⟩

/-- Without its idle separators, a region that begins with an argument line is made of the groups
of its blocks. -/
theorem plainLines_dropIdle_eq {region : List (List Char)}
    (h : ∀ line ∈ region.head?, isHeaderLine line = false ∧ trim line ≠ separator.toList) :
    plainLines (dropIdle region) = joinGroups (argGroups (content region)) := by
  obtain ⟨first, rest, hPieces, hMeets, hDrop⟩ :=
    dropIdle_eq (plainLines region) (fun _ hLine => (mem_plainLines hLine).1)
      fun _ hLine => (mem_plainLines hLine).2
  have hGroups : argGroups (content region) = (first :: rest).filter (· ≠ []) := by
    rw [← hPieces]
    rfl
  rw [plainLines_dropIdle, hDrop, hGroups]
  cases region with
  | nil =>
    obtain ⟨rfl, rfl⟩ : first = [] ∧ rest = [] := by simpa [plainLines, pieces] using hPieces.symm
    rfl
  | cons line region =>
    obtain ⟨hHeader, hSeparator⟩ := h line rfl
    have hFirst : first ≠ [] := by
      rw [← hMeets, plainLines_cons hHeader, meetsArgs, trim_trim, if_neg hSeparator,
        isHeaderLine_trim, hHeader]
      rfl
    rw [List.filter_cons_of_pos (by simpa using hFirst), joinGroups_eq]

/-! ### Regions of a document -/

/-- The lines of a document before its first block. -/
def frontLines (document : String) : List (List Char) :=
  (endedLines document.toList).takeWhile staysBase

/-- The lines of a document from its first block on. -/
def blockRegion (document : String) : List (List Char) :=
  (endedLines document.toList).dropWhile staysBase

/-- The blocks of a document before equal keys are merged. -/
def rawBlocks (document : String) : List Block :=
  (blockTexts (blockRegion document)).map Block.ofArgs

/-- The document without the idle separators among its blocks. -/
def withoutIdleSeparators (document : String) : String :=
  String.ofList (frontLines document ++ dropIdle (blockRegion document)).flatten

theorem content_frontLines (document : String) :
    content (frontLines document) = (contentLines document.toList).takeWhile staysBase := by
  rw [frontLines, content_takeWhile, content_endedLines]

theorem content_blockRegion (document : String) :
    content (blockRegion document) = (contentLines document.toList).dropWhile staysBase := by
  rw [blockRegion, content_dropWhile, content_endedLines]

theorem rawBlocks_eq (document : String) :
    rawBlocks document = (argGroups (content (blockRegion document))).map Block.ofLines := by
  rw [rawBlocks, blockTexts_eq, List.map_map]
  rfl

theorem isContent_of_mem_blockRegion {document : String} :
    ∀ line ∈ content (blockRegion document), IsContent line := by
  intro line hLine
  rw [content_blockRegion] at hLine
  exact isContent_of_mem_contentLines ((List.dropWhile_sublist staysBase).subset hLine)

theorem head?_blockRegion {document : String} :
    ∀ line ∈ (blockRegion document).head?,
      isHeaderLine line = false ∧ trim line ≠ separator.toList := by
  intro line hLine
  have hStays : staysBase line = false := by
    have hNot := List.head?_dropWhile_not staysBase (endedLines document.toList)
    rw [← blockRegion, Option.mem_def.mp hLine] at hNot
    exact hNot
  constructor
  · by_contra hHeader
    rw [staysBase_of_isHeaderLine (Bool.not_eq_false _ ▸ hHeader)] at hStays
    contradiction
  · intro hSeparator
    rw [staysBase, ← opensBlock_trim, hSeparator] at hStays
    exact absurd hStays (by decide)

theorem lineTokens_plainLines (ls : List (List Char)) :
    lineTokens (plainLines ls) = lineTokens (content ls) := by
  rw [lineTokens, plainLines, List.filter_filter]
  simp only [Bool.and_self]
  rfl

theorem tokenize_withoutIdleSeparators (document : String) :
    tokenize (withoutIdleSeparators document) = lineTokens (content (frontLines document)) ++
      lineTokens (joinGroups (argGroups (content (blockRegion document)))) := by
  have hKept : (frontLines document ++ dropIdle (blockRegion document)).Sublist
      (endedLines document.toList) := by
    conv_rhs => rw [← List.takeWhile_append_dropWhile (p := staysBase)
      (l := endedLines document.toList)]
    exact List.Sublist.append_left (dropIdle_sublist _) _
  rw [tokenize_eq, withoutIdleSeparators, String.toList_ofList,
    ((endsLines_endedLines _).sublist hKept).contentLines_flatten, content_append,
    lineTokens_append, ← lineTokens_plainLines (dropIdle _),
    plainLines_dropIdle_eq head?_blockRegion]

/-- The regions of a document as it is read: the comments of the header and the base arguments, and
then the blocks. -/
theorem exists_regions (document : String) :
    ∃ header comments body, Preset.parse document = Preset.ofContent header body ∧
      (∀ line ∈ body, IsContent line) ∧ (∀ line ∈ comments, isComment line = true) ∧
      content (frontLines document) = comments ++ body.takeWhile staysBase ∧
      content (blockRegion document) = body.dropWhile staysBase := by
  obtain ⟨header, body, hLines, hHeader, -, hParse⟩ := Preset.exists_parse_eq document
  have hBody : ∀ line ∈ content body, IsContent line := fun _ =>
    isContent_of_mem_content fun line hLine =>
      not_mem_of_mem_lines (hLines ▸ List.mem_append_right header hLine)
  have hContent : contentLines document.toList = content header ++ content body := by
    rw [contentLines_eq, hLines, content_append]
  have hComments : ∀ line ∈ content header, isHeaderLine line = true ∧ isComment line = true := by
    intro line hLine
    obtain ⟨hMem, hNil⟩ := List.mem_filter.mp hLine
    obtain ⟨raw, hRaw, rfl⟩ := List.mem_map.mp hMem
    refine ⟨by rw [isHeaderLine_trim, hHeader raw hRaw], ?_⟩
    rcases Bool.or_eq_true_iff.mp (hHeader raw hRaw) with hBlank | hComment
    · simp [of_decide_eq_true hBlank] at hNil
    · exact hComment
  have hStays : ∀ line ∈ content header, staysBase line = true := fun line hLine =>
    staysBase_of_isHeaderLine (hComments line hLine).1
  refine ⟨header, content header, content body, hParse, hBody,
    fun line hLine => (hComments line hLine).2, ?_, ?_⟩
  · rw [content_frontLines, hContent, List.takeWhile_append_of_pos hStays]
  · rw [content_blockRegion, hContent, List.dropWhile_append_of_pos hStays]

theorem blocks_parse (document : String) :
    (Preset.parse document).blocks = Block.merge (rawBlocks document) := by
  obtain ⟨header, comments, body, hParse, -, -, -, hRegion⟩ := exists_regions document
  rw [rawBlocks_eq, hRegion, hParse]
  rfl

/-- The header of a document has no tokens, and the rest of the front is the base arguments. -/
theorem lineTokens_frontLines (document : String) :
    lineTokens (content (frontLines document)) =
      lineTokens (contentLines (Preset.parse document).baseArgs.toList) := by
  obtain ⟨header, comments, body, hParse, hBody, hComments, hFront, -⟩ := exists_regions document
  have hNone : lineTokens comments = [] := by
    have hFilter : comments.filter (fun line => !isComment line) = [] :=
      List.filter_eq_nil_iff.mpr fun line hLine => by simp [hComments line hLine]
    rw [lineTokens, hFilter, List.flatMap_nil]
  rw [hFront, lineTokens_append, hNone, List.nil_append, hParse,
    Preset.contentLines_baseArgs_ofContent header hBody]

/-- A preset launches the tokens of its document without the idle separators, when no two blocks of
the document have the same key. -/
theorem tokens_parse_eq (document : String) (h : ((rawBlocks document).map Block.key).Nodup) :
    (Preset.parse document).tokens = tokenize (withoutIdleSeparators document) := by
  have hGroups : (Preset.parse document).blocks.map Block.argLines =
      argGroups (content (blockRegion document)) := by
    rw [blocks_parse, Block.merge_eq_self h, rawBlocks_eq]
    exact Block.map_argLines_ofLines fun _ => isGroup_of_mem_argGroups isContent_of_mem_blockRegion
  rw [Preset.tokens_eq, Preset.bodyLines, lineTokens_append, hGroups,
    tokenize_withoutIdleSeparators, lineTokens_frontLines]

/-- Separators that separate nothing, a separator among the base arguments, and a comment. -/
theorem tokens_parse_idle :
    let document :=
      "# Preset: Games\n--wf-tcp=443\n--new\n--filter-tcp=443 --hostlist=\"my list.txt\"\n" ++
        "--new\n\n  # next\n--new\r\n  --filter-udp=443\n--new\n"
    withoutIdleSeparators document =
        "# Preset: Games\n--wf-tcp=443\n--new\n--filter-tcp=443 --hostlist=\"my list.txt\"\n" ++
          "\n  # next\n--new\r\n  --filter-udp=443\n" ∧
      (Preset.parse document).tokens = tokenize (withoutIdleSeparators document) := by
  intro document
  exact ⟨by decide +kernel, tokens_parse_eq document (by decide +kernel)⟩

end PresetCompiler
