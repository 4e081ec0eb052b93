import PresetCompiler.Proofs.Preset.Body

/-! Writing a preset and reading it back. A preset comes back unchanged when it is well formed, and
the only ways in which a preset that was read from a document fails to be so are a header line that
ends in a carriage return and a first block that does not begin with a filter. -/

namespace PresetCompiler

open Text

namespace Preset

/-! ### Headers -/

/-- The lines of the stored header. -/
def rawLines (preset : Preset) : List (List Char) :=
  pieces (· == '\n') preset.rawHeader.toList

/-- No header is stored, and the name and the active preset can each be stated on one line. -/
@[mk_iff] structure NamesPlainly (preset : Preset) : Prop where
  rawHeader : preset.rawHeader = ""
  name : IsContent preset.name.toList
  activePreset : ∀ active ∈ preset.activePreset, IsContent active.toList

instance : DecidablePred NamesPlainly := fun preset =>
  decidable_of_iff' _ (namesPlainly_iff preset)

/-- The stored header is made of comments and blank lines, with a comment at either end. It states
the name and the active preset, but not in the plain form that is written for these two. -/
@[mk_iff] structure StoresHeader (preset : Preset) : Prop where
  line : ∀ line ∈ preset.rawLines, isHeaderLine line = true
  first : ∀ line ∈ preset.rawLines.head?, trim line ≠ []
  last : ∀ line ∈ preset.rawLines.getLast?, trim line ≠ []
  name : preset.name = (Header.ofLines preset.rawLines).name.getD unnamed
  activePreset : preset.activePreset = (Header.ofLines preset.rawLines).activePreset
  notPlain : preset.rawHeader.toList ≠ joinLines (plainHeader preset.name preset.activePreset)

instance : DecidablePred StoresHeader := fun preset =>
  decidable_of_iff' _ (storesHeader_iff preset)

/-- No line of the stored header ends in a carriage return. -/
def KeepsReturns (preset : Preset) : Prop :=
  ∀ line ∈ preset.rawLines, line.getLast? ≠ some '\r'

instance : DecidablePred KeepsReturns := fun preset =>
  inferInstanceAs (Decidable (∀ line ∈ preset.rawLines, line.getLast? ≠ some '\r'))

theorem joinLines_rawLines (preset : Preset) :
    joinLines preset.rawLines = preset.rawHeader.toList :=
  joinLines_pieces preset.rawHeader.toList

theorem not_mem_of_mem_rawLines {preset : Preset} {line : List Char}
    (h : line ∈ preset.rawLines) : '\n' ∉ line :=
  not_mem_of_mem_pieces h

theorem rawLines_eq {preset : Preset} {header : List (List Char)} (hNil : header ≠ [])
    (hFeed : ∀ line ∈ header, '\n' ∉ line) (h : preset.rawHeader.toList = joinLines header) :
    preset.rawLines = header := by
  rw [rawLines, h]
  exact pieces_intercalate (by simp) (fun line hLine => ne_feed_of_not_mem (hFeed line hLine)) hNil

theorem NamesPlainly.headerLines {preset : Preset} (h : preset.NamesPlainly) :
    preset.headerLines = plainHeader preset.name preset.activePreset ++ [[]] :=
  if_pos h.rawHeader

namespace StoresHeader

variable {preset : Preset} (h : preset.StoresHeader)
include h

theorem exists_concat : ∃ front last, preset.rawLines = front ++ [last] ∧ trim last ≠ [] := by
  obtain hNil | ⟨front, last, hSplit⟩ := List.eq_nil_or_concat' preset.rawLines
  · exact absurd hNil (pieces_ne_nil _ _)
  · exact ⟨front, last, hSplit, h.last last (by rw [hSplit, List.getLast?_concat]; rfl)⟩

theorem rawHeader_ne : preset.rawHeader ≠ "" := by
  intro hEmpty
  have hLines : preset.rawLines = [[]] := by
    rw [rawLines, hEmpty]
    rfl
  exact h.first [] (by rw [hLines]; rfl) trim_nil

/-- A stored header is written as it is read, and its last line loses nothing yet. -/
theorem headerLines {front : List (List Char)} {last : List Char}
    (hSplit : preset.rawLines = front ++ [last]) (hLast : trim last ≠ []) :
    preset.headerLines = front.map withoutReturn ++ [last] ++ [[]] := by
  have hNil : last ≠ [] := fun hNil => hLast (hNil ▸ trim_nil)
  have hLines : lines preset.rawHeader.toList = front.map withoutReturn ++ [last] := by
    rw [← joinLines_rawLines, hSplit, lines_joinLines_concat]
    · simp [hNil]
    · exact fun line hLine => not_mem_of_mem_rawLines (hSplit ▸ hLine)
  rw [Preset.headerLines, if_neg h.rawHeader_ne, hLines]
  simp [hLast]

theorem ofLines_rawLines : (Header.ofLines preset.rawLines).lines = preset.rawLines := by
  rw [Header.ofLines_eq, strip_eq_self_iff]
  exact ⟨fun line hLine => by simpa [Header.isBlankLine] using h.first line hLine,
    fun line hLine => by simpa [Header.isBlankLine] using h.last line hLine⟩

end StoresHeader

/-- The header of a preset that names plainly or stores a header, as it is written. -/
theorem exists_header {preset : Preset} (h : preset.NamesPlainly ∨ preset.StoresHeader) :
    ∃ header, preset.headerLines = header ++ [[]] ∧
      ∀ line ∈ header, '\n' ∉ line ∧ isHeaderLine line = true := by
  rcases h with h | h
  · refine ⟨_, h.headerLines, fun line hLine => ?_⟩
    have hComment := isComment_of_mem_plainHeader h.name h.activePreset hLine
    exact ⟨hComment.content.noFeed, hComment.isHeaderLine⟩
  · obtain ⟨front, last, hSplit, hLast⟩ := h.exists_concat
    refine ⟨_, h.headerLines hSplit hLast, fun line hLine => ?_⟩
    have hRaw : ∀ line ∈ front ++ [last], '\n' ∉ line ∧ isHeaderLine line = true :=
      fun line hLine => ⟨not_mem_of_mem_rawLines (hSplit ▸ hLine), h.line line (hSplit ▸ hLine)⟩
    rcases List.mem_append.mp hLine with hLine | hLine
    · obtain ⟨raw, hMem, rfl⟩ := List.mem_map.mp hLine
      obtain ⟨hFeed, hHeader⟩ := hRaw raw (List.mem_append_left _ hMem)
      exact ⟨not_mem_withoutReturn hFeed, by rwa [isHeaderLine_withoutReturn]⟩
    · exact hRaw line (List.mem_append_right front hLine)

/-- A stored header that keeps its carriage returns is read back line by line. -/
theorem StoresHeader.map_withoutReturn {preset : Preset} (h : preset.StoresHeader)
    {header : List (List Char)} (hHeader : preset.headerLines = header ++ [[]])
    (hKeeps : preset.KeepsReturns) : header.map withoutReturn = preset.rawLines := by
  obtain ⟨front, last, hSplit, hLast⟩ := h.exists_concat
  have hRaw : ∀ line ∈ front ++ [last], line.getLast? ≠ some '\r' := fun line hLine =>
    hKeeps line (hSplit ▸ hLine)
  have hFront : front.map withoutReturn = front :=
    map_withoutReturn_eq_self fun line hLine => hRaw line (List.mem_append_left _ hLine)
  rw [h.headerLines hSplit hLast, List.append_cancel_right_eq, hFront] at hHeader
  rw [← hHeader, hSplit, map_withoutReturn_eq_self hRaw]

/-- Of a stored header, lines that end in a carriage return do not come back. -/
theorem StoresHeader.keepsReturns {preset : Preset} (h : preset.StoresHeader)
    {header : List (List Char)} (hHeader : preset.headerLines = header ++ [[]])
    (hSame : header.map withoutReturn = preset.rawLines) : preset.KeepsReturns := by
  obtain ⟨front, last, hSplit, hLast⟩ := h.exists_concat
  rw [h.headerLines hSplit hLast, List.append_cancel_right_eq] at hHeader
  rw [← hHeader, hSplit, List.map_append, List.map_map] at hSame
  obtain ⟨hFront, hEnd⟩ := List.append_inj' hSame rfl
  have hTwice : ∀ line ∈ front, withoutReturn (withoutReturn line) = line :=
    List.map_inj_left.mp (hFront.trans (List.map_id' front).symm)
  intro line hLine hReturn
  have hLess := length_withoutReturn_lt hReturn
  rw [hSplit] at hLine
  rcases List.mem_append.mp hLine with hLine | hLine
  · -- A line before the last loses one return when it is written and may lose another when read.
    have hLe := length_withoutReturn_le (withoutReturn line)
    rw [hTwice line hLine] at hLe
    omega
  · obtain rfl := List.mem_singleton.mp hLine
    rw [List.singleton_inj.mp hEnd] at hLess
    omega

/-- The fields that a preset takes from its header. -/
def headerFields (preset : Preset) : String × Option String × String :=
  (preset.name, preset.activePreset, preset.rawHeader)

theorem headerFields_reread {preset : Preset} (h : preset.NamesPlainly ∨ preset.StoresHeader)
    {header : List (List Char)} (hHeader : preset.headerLines = header ++ [[]])
    (hKeeps : preset.KeepsReturns) (body : List (List Char)) :
    (ofContent (header.map withoutReturn) body).headerFields = preset.headerFields := by
  rcases h with h | h
  · have hSame : header.map withoutReturn = plainHeader preset.name preset.activePreset := by
      rw [h.headerLines, List.append_cancel_right_eq] at hHeader
      rw [← hHeader]
      refine map_withoutReturn_eq_self fun line hLine hReturn => ?_
      have hComment := isComment_of_mem_plainHeader h.name h.activePreset hLine
      exact absurd ((trim_eq_self_iff.mp hComment.content.trim_eq).2 _ hReturn) (by decide)
    rw [hSame, headerFields, ofContent, Header.ofLines_plainHeader h.name h.activePreset]
    simp [headerFields, h.rawHeader]
  · rw [h.map_withoutReturn hHeader hKeeps, headerFields, ofContent, ← h.name, ← h.activePreset,
      h.ofLines_rawLines, joinLines_rawLines, if_neg h.notPlain, String.ofList_toList]
    rfl

theorem NamesPlainly.keepsReturns {preset : Preset} (h : preset.NamesPlainly) :
    preset.KeepsReturns := by
  rw [KeepsReturns, rawLines, h.rawHeader]
  decide

/-- A header that is stored is stored without the blank lines around it. -/
theorem rawHeader_ofContent {region body : List (List Char)}
    (hEmpty : (ofContent region body).rawHeader ≠ "") :
    (ofContent region body).rawHeader.toList = joinLines (strip Header.isBlankLine region) ∧
      strip Header.isBlankLine region ≠ [] := by
  have hStored : (ofContent region body).rawHeader =
      String.ofList (joinLines (Header.ofLines region).lines) :=
    if_neg fun hPlain => hEmpty (if_pos hPlain)
  rw [Header.ofLines_eq] at hStored
  refine ⟨by rw [hStored, String.toList_ofList], fun hNil => hEmpty ?_⟩
  rw [hStored, hNil]
  rfl

/-- A header that comes back had no line that ends in a carriage return. -/
theorem keepsReturns_of_rawHeader {preset : Preset}
    (h : preset.NamesPlainly ∨ preset.StoresHeader) {header body : List (List Char)}
    (hHeader : preset.headerLines = header ++ [[]]) (hFeed : ∀ line ∈ header, '\n' ∉ line)
    (hSame : (ofContent (header.map withoutReturn) body).rawHeader = preset.rawHeader) :
    preset.KeepsReturns := by
  rcases h with h | h
  · exact h.keepsReturns
  set reread := header.map withoutReturn with hReread
  have hRereadFeed : ∀ line ∈ strip Header.isBlankLine reread, '\n' ∉ line := by
    intro line hLine
    obtain ⟨raw, hRaw, rfl⟩ := List.mem_map.mp ((strip_sublist _ _).subset hLine)
    exact not_mem_withoutReturn (hFeed raw hRaw)
  obtain ⟨hJoin, hNil⟩ := rawHeader_ofContent (hSame ▸ h.rawHeader_ne)
  rw [hSame, ← joinLines_rawLines] at hJoin
  have hLines : strip Header.isBlankLine reread = preset.rawLines :=
    joinLines_injective hRereadFeed (fun _ => not_mem_of_mem_rawLines) hNil (pieces_ne_nil _ _)
      hJoin.symm
  -- As many lines are written as are stored, so that reading took none away at either end.
  have hLength : reread.length = preset.rawLines.length := by
    obtain ⟨front, last, hSplit, hLast⟩ := h.exists_concat
    rw [h.headerLines hSplit hLast, List.append_cancel_right_eq] at hHeader
    rw [hReread, ← hHeader, hSplit]
    simp
  have hAll : strip Header.isBlankLine reread = reread :=
    (strip_sublist _ reread).eq_of_length (by rw [hLines, hLength])
  exact h.keepsReturns hHeader (hAll.symm.trans hLines)

section Read

variable {region : List (List Char)} (hFeed : ∀ line ∈ region, '\n' ∉ line)
  (body : List (List Char))
include hFeed

theorem isContent_name_ofContent : IsContent (ofContent region body).name.toList := by
  rw [ofContent, Header.ofLines_eq]
  cases hName : (lastDirective? "Preset" region).or (lastDirective? "Strategy" region) with
  | none =>
    show IsContent unnamed.toList
    decide
  | some name =>
    rcases Option.or_eq_some_iff.mp hName with hPreset | ⟨-, hStrategy⟩
    · exact isContent_of_lastDirective? hPreset hFeed
    · exact isContent_of_lastDirective? hStrategy hFeed

theorem isContent_activePreset_ofContent :
    ∀ active ∈ (ofContent region body).activePreset, IsContent active.toList := by
  intro active hActive
  rw [ofContent, Header.ofLines_eq] at hActive
  exact isContent_of_lastDirective? hActive hFeed

/-- A header that says more than the name and the active preset is stored. -/
theorem storesHeader_ofContent (hHeader : ∀ line ∈ region, isHeaderLine line = true)
    (hEmpty : (ofContent region body).rawHeader ≠ "") : (ofContent region body).StoresHeader := by
  obtain ⟨hRaw, hNil⟩ := rawHeader_ofContent hEmpty
  have hRawLines : (ofContent region body).rawLines = strip Header.isBlankLine region :=
    rawLines_eq hNil (fun line hLine => hFeed line ((strip_sublist _ _).subset hLine)) hRaw
  refine ⟨?_, ?_, ?_, ?_, ?_, ?_⟩
  · intro line hLine
    rw [hRawLines] at hLine
    exact hHeader line ((strip_sublist _ _).subset hLine)
  · intro line hLine
    rw [hRawLines] at hLine
    simpa [Header.isBlankLine] using head?_strip hLine
  · intro line hLine
    rw [hRawLines] at hLine
    simpa [Header.isBlankLine] using getLast?_strip hLine
  · rw [hRawLines, Header.ofLines_strip]
    rfl
  · rw [hRawLines, Header.ofLines_strip]
    rfl
  · rw [hRaw]
    intro hPlain
    have hLines : (Header.ofLines region).lines = strip Header.isBlankLine region := by
      rw [Header.ofLines_eq]
    exact hEmpty (if_pos (hLines ▸ hPlain))

end Read

theorem namesPlainly_or_storesHeader_parse (document : String) :
    (parse document).NamesPlainly ∨ (parse document).StoresHeader := by
  obtain ⟨region, body, hLines, hHeader, -, hParse⟩ := exists_parse_eq document
  have hFeed : ∀ line ∈ region, '\n' ∉ line := fun line hLine =>
    not_mem_of_mem_lines (hLines ▸ List.mem_append_left body hLine)
  rw [hParse]
  by_cases hEmpty : (ofContent region (content body)).rawHeader = ""
  · exact .inl ⟨hEmpty, isContent_name_ofContent hFeed _, isContent_activePreset_ofContent hFeed _⟩
  · exact .inr (storesHeader_ofContent hFeed _ hHeader hEmpty)

/-! ### Well-formed presets -/

/-- What a preset has to be in order to come back from its document. -/
@[mk_iff] structure WellFormed (preset : Preset) : Prop where
  header : preset.NamesPlainly ∨ preset.StoresHeader
  keepsReturns : preset.KeepsReturns
  body : preset.IsTidy
  opensFirst : preset.OpensFirst

instance : DecidablePred WellFormed := fun preset =>
  decidable_of_iff' _ (wellFormed_iff preset)

theorem eq_of_fields {a b : Preset} (hHeader : a.headerFields = b.headerFields)
    (hBase : a.baseArgs = b.baseArgs) (hBlocks : a.blocks = b.blocks) : a = b := by
  obtain ⟨name, activePreset, baseArgs, blocks, rawHeader⟩ := a
  obtain ⟨name', activePreset', baseArgs', blocks', rawHeader'⟩ := b
  simp only [headerFields, Prod.mk.injEq] at hHeader hBase hBlocks
  obtain ⟨rfl, rfl, rfl⟩ := hHeader
  rw [hBase, hBlocks]

/-- Writing with the header and reading gives the preset exactly when its header keeps its carriage
returns and its first block opens. -/
theorem parse_render_true_eq_iff {preset : Preset}
    (hHeader : preset.NamesPlainly ∨ preset.StoresHeader) (hBody : preset.IsTidy) :
    parse (preset.render true) = preset ↔ preset.KeepsReturns ∧ preset.OpensFirst := by
  obtain ⟨header, hLines, hLine⟩ := exists_header hHeader
  rw [parse_render_true hLines hLine hBody.head?_bodyLines]
  constructor
  · intro hSame
    constructor
    · exact keepsReturns_of_rawHeader hHeader hLines (fun line hMem => (hLine line hMem).1)
        (congrArg rawHeader hSame)
    · exact (baseArgs_reread_iff hBody _).mp (congrArg baseArgs hSame)
  · rintro ⟨hKeeps, hOpens⟩
    refine eq_of_fields ?_ ?_ ?_
    · exact headerFields_reread hHeader hLines hKeeps _
    · exact (baseArgs_reread_iff hBody _).mpr hOpens
    · exact blocks_reread_of_opensFirst hBody _ hOpens

/-- Reading establishes all but two of the conditions. -/
theorem wellFormed_parse_iff (document : String) :
    (parse document).WellFormed ↔ (parse document).KeepsReturns ∧ (parse document).OpensFirst :=
  ⟨fun h => ⟨h.keepsReturns, h.opensFirst⟩,
    fun h => ⟨namesPlainly_or_storesHeader_parse document, h.1, isTidy_parse document, h.2⟩⟩

/-- Well-formed presets come back from their documents, and of what is read from any document, only
the carriage returns of the header and the beginning of the first block may break the form. -/
theorem parse_render_of_wellFormed :
    (∀ preset : Preset, preset.WellFormed →
      parse (preset.render true) = preset ∧
      (parse (preset.render false)).baseArgs = preset.baseArgs ∧
      (parse (preset.render false)).blocks = preset.blocks) ∧
    ∀ document, (parse document).WellFormed ↔
      (parse document).KeepsReturns ∧ (parse document).OpensFirst := by
  refine ⟨fun preset h => ⟨?_, ?_, ?_⟩, wellFormed_parse_iff⟩
  · exact (parse_render_true_eq_iff h.header h.body).mpr ⟨h.keepsReturns, h.opensFirst⟩
  · rw [parse_render_false h.body.head?_bodyLines]
    exact (baseArgs_reread_iff h.body []).mpr h.opensFirst
  · rw [parse_render_false h.body.head?_bodyLines]
    exact blocks_reread_of_opensFirst h.body [] h.opensFirst

/-- A preset with a stored header, base arguments and two blocks. -/
theorem parse_render_games :
    let preset : Preset := {
      name := "Games", activePreset := none
      baseArgs := "--wf-tcp=443\n--wf-udp=443"
      blocks := [.ofArgs "--filter-tcp=443\n--hostlist=games.txt",
        .ofArgs "--filter-udp=443\n--dpi-desync=fake"]
      rawHeader := "# Preset: Games\n\n# by hand" }
    preset.WellFormed ∧ parse (preset.render true) = preset := by
  intro preset
  have hPreset : preset.WellFormed := by decide +kernel
  exact ⟨hPreset, (parse_render_of_wellFormed.1 preset hPreset).1⟩

/-- What is read from a document comes back from the canonical document exactly when no line of the
stored header ends in a carriage return and the first block begins with a filter. -/
theorem parse_render_parse_eq_iff (document : String) :
    parse ((parse document).render true) = parse document ↔
      (parse document).KeepsReturns ∧ (parse document).OpensFirst :=
  parse_render_true_eq_iff (namesPlainly_or_storesHeader_parse document) (isTidy_parse document)

/-- The last block of a key takes the first place of the key. Where it begins with no filter, its
first line comes back among the base arguments. A header line may also lose a carriage return. -/
theorem parse_render_parse_ne :
    let moved := "--filter-tcp=443\n--hostlist=a.txt\n--new\n" ++
      "--dpi-desync=fake\n--filter-tcp=443\n--hostlist=a.txt"
    let returned := "# a\r\r\n# b\n--x"
    parse ((parse moved).render true) ≠ parse moved ∧
      parse ((parse returned).render true) ≠ parse returned := by
  decide +kernel

end Preset

end PresetCompiler
