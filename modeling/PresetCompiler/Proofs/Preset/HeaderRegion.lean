import PresetCompiler.Proofs.Preset.Content

/-! The header region of a document, and what a preset takes from it: its name, its active preset
and its stored header. Base arguments and blocks come from the other lines alone. -/

namespace PresetCompiler

open Text

/-! ### The last of several directives -/

/-- The last line of a region that states a value for a keyword states this one. -/
def StatesLast (keyword : String) (region : List (List Char)) (value : String) : Prop :=
  ∃ before line after, region = before ++ line :: after ∧
    States keyword (trim line) value.toList ∧
    ∀ later ∈ after, ∀ other, ¬ States keyword (trim later) other

section StatesLast

variable {keyword : String} (hHead : keyword.toList.head?.map isBlank = some false)
include hHead

theorem directive?_eq_some_iff {line value : List Char} :
    directive? keyword line = some value ↔ States keyword line value :=
  ⟨states_of_directive?, directive?_of_states hHead⟩

theorem directive?_eq_none_iff {line : List Char} :
    directive? keyword line = none ↔ ∀ value, ¬ States keyword line value := by
  simp only [Option.eq_none_iff_forall_ne_some, Ne, directive?_eq_some_iff hHead]

theorem lastDirective?_eq_some_iff {region : List (List Char)} {value : String} :
    lastDirective? keyword region = some value ↔ StatesLast keyword region value := by
  unfold lastDirective?
  rw [Option.map_eq_some_iff]
  simp only [List.getLast?_filterMap, List.findSome?_eq_some_iff]
  constructor
  · rintro ⟨chars, ⟨after, line, before, hRegion, hLine, hAfter⟩, rfl⟩
    refine ⟨before.reverse, line, after.reverse, ?_, ?_, ?_⟩
    · rw [← List.reverse_reverse region, hRegion]
      simp
    · rw [String.toList_ofList]
      exact states_of_directive? hLine
    · intro later hLater
      exact (directive?_eq_none_iff hHead).mp (hAfter later (List.mem_reverse.mp hLater))
  · rintro ⟨before, line, after, rfl, hLine, hAfter⟩
    refine ⟨value.toList, ⟨after.reverse, line, before.reverse, by simp, ?_, ?_⟩,
      String.ofList_toList⟩
    · exact directive?_of_states hHead hLine
    · intro later hLater
      exact (directive?_eq_none_iff hHead).mpr (hAfter later (List.mem_reverse.mp hLater))

theorem lastDirective?_eq_none_iff {region : List (List Char)} :
    lastDirective? keyword region = none ↔ ∀ value, ¬ StatesLast keyword region value := by
  simp only [Option.eq_none_iff_forall_ne_some, Ne, lastDirective?_eq_some_iff hHead]

end StatesLast

/-! ### The header of a preset -/

namespace Preset

/-- What a preset takes from a header region. The last `Preset` directive names it, or else the last
`Strategy` directive; the header is stored from the first comment to the last, unless it says just
the name and the active preset in the plain form. -/
structure TakesHeader (region : List (List Char)) (preset : Preset) : Prop where
  name (value : String) : preset.name = value ↔ StatesLast "Preset" region value ∨
    (∀ other, ¬ StatesLast "Preset" region other) ∧ (StatesLast "Strategy" region value ∨
      (∀ other, ¬ StatesLast "Strategy" region other) ∧ value = "Unnamed")
  activePreset (value : String) :
    preset.activePreset = some value ↔ StatesLast "ActivePreset" region value
  rawHeader : ∃ front kept back, region = front ++ kept ++ back ∧
    (∀ line ∈ front ++ back, trim line = []) ∧
    (∀ line ∈ kept.head?, isComment (trim line) = true) ∧
    (∀ line ∈ kept.getLast?, isComment (trim line) = true) ∧
    preset.rawHeader.toList =
      if joinLines kept = joinLines (plainHeader preset.name preset.activePreset) then []
      else joinLines kept

theorem name_eq_iff {region : List (List Char)} {value : String} :
    ((lastDirective? "Preset" region).or (lastDirective? "Strategy" region)).getD unnamed = value ↔
      StatesLast "Preset" region value ∨
      (∀ other, ¬ StatesLast "Preset" region other) ∧ (StatesLast "Strategy" region value ∨
        (∀ other, ¬ StatesLast "Strategy" region other) ∧ value = "Unnamed") := by
  have hPreset : "Preset".toList.head?.map isBlank = some false := by decide
  have hStrategy : "Strategy".toList.head?.map isBlank = some false := by decide
  rw [← lastDirective?_eq_some_iff hPreset, ← lastDirective?_eq_none_iff hPreset,
    ← lastDirective?_eq_some_iff hStrategy, ← lastDirective?_eq_none_iff hStrategy]
  cases lastDirective? "Preset" region with
  | some name => simp
  | none =>
    cases lastDirective? "Strategy" region with
    | some name => simp
    | none => simp [unnamed, eq_comm]

/-- The lines of a header region between the blank lines around them begin and end with comments. -/
theorem isComment_of_strip {region : List (List Char)}
    (h : ∀ line ∈ region, isHeaderLine line = true) {line : List Char}
    (hLine : line ∈ strip Header.isBlankLine region) (hBlank : Header.isBlankLine line = false) :
    isComment (trim line) = true := by
  have hHeader := h line ((strip_sublist _ region).subset hLine)
  exact (Bool.or_eq_true_iff.mp hHeader).resolve_left (by simpa [Header.isBlankLine] using hBlank)

theorem takesHeader_ofContent {region : List (List Char)}
    (h : ∀ line ∈ region, isHeaderLine line = true) (body : List (List Char)) :
    TakesHeader region (ofContent region body) where
  name value := by
    rw [ofContent, Header.ofLines_eq]
    exact name_eq_iff
  activePreset value := by
    rw [ofContent, Header.ofLines_eq]
    exact lastDirective?_eq_some_iff (by decide)
  rawHeader := by
    obtain ⟨front, back, hSplit, hFront, hBack⟩ := exists_append_strip Header.isBlankLine region
    refine ⟨front, strip Header.isBlankLine region, back, hSplit, ?_, ?_, ?_, ?_⟩
    · intro line hLine
      rcases List.mem_append.mp hLine with hLine | hLine
      · exact of_decide_eq_true (hFront line hLine)
      · exact of_decide_eq_true (hBack line hLine)
    · intro line hLine
      exact isComment_of_strip h (List.mem_of_mem_head? hLine) (head?_strip hLine)
    · intro line hLine
      exact isComment_of_strip h (List.mem_of_getLast? hLine) (getLast?_strip hLine)
    · rw [ofContent, Header.ofLines_eq]
      simp only
      split
      · rfl
      · exact String.toList_ofList

/-- The header of a preset is what its header region says, and its base arguments and blocks are the
same for all documents that agree beyond this region. -/
theorem parse_takesHeader (document : String) :
    TakesHeader (headerRegion document) (parse document) ∧
    ∀ other, bodyRegion other = bodyRegion document →
      (parse other).baseArgs = (parse document).baseArgs ∧
      (parse other).blocks = (parse document).blocks := by
  constructor
  · rw [parse_eq]
    exact takesHeader_ofContent isHeaderLine_of_mem_headerRegion _
  · intro other hBody
    rw [parse_eq other, parse_eq document, hBody]
    exact ⟨rfl, rfl⟩

/-- A `Strategy` directive before and after a `Preset` directive, one in an odd spelling, and one
that comes too late. -/
theorem parse_takesHeader_late :
    let document := "\n# Strategy: Old\n\n#\tPREſET :  New  \r\n# Strategy: Older\n\n" ++
      "--wf-tcp=443\n# Preset: Late\n# ActivePreset: None\n"
    let other := "--wf-tcp=443\n# Preset: Late\n# ActivePreset: None\n"
    bodyRegion other = bodyRegion document ∧
      StatesLast "Preset" (headerRegion document) "New" ∧ (parse document).name = "New" ∧
      (parse other).baseArgs = (parse document).baseArgs := by
  intro document other
  have hBody : bodyRegion other = bodyRegion document := by decide +kernel
  have hNew : StatesLast "Preset" (headerRegion document) "New" :=
    (lastDirective?_eq_some_iff (by decide)).mp (by decide +kernel)
  obtain ⟨hHeader, hRest⟩ := parse_takesHeader document
  exact ⟨hBody, hNew, (hHeader.name "New").mpr (.inl hNew), (hRest other hBody).1⟩

end Preset

end PresetCompiler
