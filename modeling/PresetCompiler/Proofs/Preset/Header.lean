import PresetCompiler.Proofs.Preset.Directives

/-! What a header says. It is read line by line, and the last directives of its lines say what it
states (`Header.ofLines_eq`). Blank lines around it say nothing, its directives name values that fit
on a line, and the plain header of a name and an active preset states just these two. -/

namespace PresetCompiler

open Text

/-! ### Header lines -/

theorem isHeaderLine_of_blank {line : List Char} (h : trim line = []) :
    isHeaderLine line = true := by
  simp [isHeaderLine, h]

theorem isHeaderLine_withoutReturn (line : List Char) :
    isHeaderLine (withoutReturn line) = isHeaderLine line := by
  simp [isHeaderLine]

theorem isHeaderLine_of_mem_map {ls : List (List Char)}
    (h : ∀ line ∈ ls, isHeaderLine line = true) :
    ∀ line ∈ ls.map withoutReturn, isHeaderLine line = true := by
  intro line hLine
  obtain ⟨raw, hRaw, rfl⟩ := List.mem_map.mp hLine
  rw [isHeaderLine_withoutReturn, h raw hRaw]

/-- Whether a line of a header is blank. -/
def Header.isBlankLine (line : List Char) : Bool := trim line = []

/-! ### Line by line -/

namespace HeaderReading

open Header

/-- What a comment states, for each keyword by itself. -/
theorem heed_eq (reading : HeaderReading) (comment : List Char) :
    reading.heed comment =
      { reading with
        name := ((directive? "Preset" comment).map String.ofList).or
          (if reading.isNamed then reading.name
          else ((directive? "Strategy" comment).map String.ofList).or reading.name)
        isNamed := (directive? "Preset" comment).isSome || reading.isNamed
        activePreset := ((directive? "ActivePreset" comment).map String.ofList).or
          reading.activePreset } := by
  have hApart {keyword other : String} {value : List Char}
      (h : directive? keyword comment = some value) (hKeyword : keyword.toList ≠ [])
      (hOther : other.toList ≠ [])
      (hLetter : keyword.toList.head?.map foldLetter ≠ other.toList.head?.map foldLetter) :
      directive? other comment = none := directive?_eq_none hKeyword hOther hLetter h
  obtain ⟨stated, isNamed, activePreset, kept⟩ := reading
  unfold heed
  split
  · rename_i name hPreset
    have hActive : directive? "ActivePreset" comment = none :=
      hApart hPreset (by decide) (by decide) (by decide)
    simp [hPreset, hActive]
  · rename_i hPreset
    split
    · rename_i active hActive
      have hStrategy : directive? "Strategy" comment = none :=
        hApart hActive (by decide) (by decide) (by decide)
      simp [hPreset, hActive, hStrategy]
    · rename_i hActive
      split
      · rename_i name hStrategy
        split
        · simp [hPreset, hActive]
        · simp [hPreset, hActive, hStrategy]
      · rename_i hStrategy
        simp [hPreset, hActive, hStrategy]

/-- A reading says what the lines say that have been read. -/
structure Follows (region : List (List Char)) (reading : HeaderReading) : Prop where
  name : reading.name = (lastDirective? "Preset" region).or (lastDirective? "Strategy" region)
  isNamed : reading.isNamed = (lastDirective? "Preset" region).isSome
  activePreset : reading.activePreset = lastDirective? "ActivePreset" region
  kept : reading.kept = (region.dropWhile isBlankLine).reverse

theorem Follows.next {region : List (List Char)} {reading : HeaderReading}
    (h : Follows region reading) (line : List Char) :
    Follows (region ++ [line]) (reading.next line) := by
  unfold HeaderReading.next
  by_cases hBlank : trim line = []
  · have hTest : isBlankLine line = true := decide_eq_true hBlank
    have hKept : ((region ++ [line]).dropWhile isBlankLine).reverse =
        if reading.kept = [] then [] else line :: reading.kept := by
      rw [List.dropWhile_append, h.kept]
      by_cases hNil : region.dropWhile isBlankLine = [] <;> simp [hNil, hTest]
    have hSame (keyword : String) := lastDirective?_concat_of_blank keyword region hBlank
    simp only [if_pos hBlank]
    split
    · rename_i hNil
      refine ⟨?_, ?_, ?_, ?_⟩
      · rw [hSame, hSame, h.name]
      · rw [hSame, h.isNamed]
      · rw [hSame, h.activePreset]
      · rw [hKept, if_pos hNil, hNil]
    · rename_i hNil
      refine ⟨?_, ?_, ?_, ?_⟩
      · rw [hSame, hSame, ← h.name]
      · rw [hSame, ← h.isNamed]
      · rw [hSame, ← h.activePreset]
      · rw [hKept, if_neg hNil]
  · have hTest : isBlankLine line = false := decide_eq_false hBlank
    have hKept : ((region ++ [line]).dropWhile isBlankLine).reverse = line :: reading.kept := by
      rw [List.dropWhile_append, h.kept]
      by_cases hNil : region.dropWhile isBlankLine = [] <;> simp [hNil, hTest]
    simp only [if_neg hBlank, heed_eq]
    refine ⟨?_, ?_, ?_, hKept.symm⟩
    · rw [lastDirective?_concat, lastDirective?_concat, h.name, h.isNamed]
      cases directive? "Preset" (trim line) <;> cases lastDirective? "Preset" region <;> simp
    · rw [lastDirective?_concat, h.isNamed]
      cases directive? "Preset" (trim line) <;> simp
    · rw [lastDirective?_concat, h.activePreset]

theorem follows_foldl (region : List (List Char)) :
    Follows region (region.foldl HeaderReading.next {}) := by
  induction region using List.reverseRecOn with
  | nil => exact ⟨rfl, rfl, rfl, rfl⟩
  | append_singleton region line ih =>
    rw [List.foldl_concat]
    exact ih.next line

end HeaderReading

namespace Header

/-- A header says what its last directives state. A `Preset` directive counts before any `Strategy`
directive. -/
theorem ofLines_eq (region : List (List Char)) :
    ofLines region =
      { name := (lastDirective? "Preset" region).or (lastDirective? "Strategy" region)
        activePreset := lastDirective? "ActivePreset" region
        lines := strip isBlankLine region } := by
  have h := HeaderReading.follows_foldl region
  unfold ofLines
  simp only [h.name, h.activePreset, h.kept]
  rfl

theorem lastDirective?_strip (keyword : String) (region : List (List Char)) :
    lastDirective? keyword (strip isBlankLine region) = lastDirective? keyword region := by
  rw [lastDirective?, lastDirective?, filterMap_strip]
  intro line hBlank
  exact directive?_blank (by simpa [isBlankLine] using hBlank)

/-- The lines that a header keeps say the same as all its lines. -/
theorem ofLines_strip (region : List (List Char)) :
    ofLines (strip isBlankLine region) = ofLines region := by
  simp only [ofLines_eq, lastDirective?_strip, strip_strip]

theorem ofLines_append_blank {blanks : List (List Char)} (h : ∀ line ∈ blanks, trim line = [])
    (region : List (List Char)) : ofLines (region ++ blanks) = ofLines region := by
  rw [← ofLines_strip, strip_append_right (by simpa [isBlankLine] using h), ofLines_strip]

end Header

/-! ### Plain headers -/

theorem plainHeader_eq (name : String) (activePreset : Option String) :
    plainHeader name activePreset = directiveLine "Preset" name.toList ::
      (activePreset.map fun active => directiveLine "ActivePreset" active.toList).toList := by
  cases activePreset <;> simp [plainHeader, directiveLine, commentMark]

theorem trim_directiveLine (keyword : String) {value : List Char} (h : IsContent value) :
    trim (directiveLine keyword value) = directiveLine keyword value := by
  rw [trim_eq_self_iff]
  refine ⟨by simp [directiveLine, commentMark]; decide, fun c hc => ?_⟩
  refine (trim_eq_self_iff.mp h.trim_eq).2 c ?_
  obtain ⟨front, last, rfl⟩ := List.eq_nil_or_concat' value |>.resolve_left h.ne_nil
  have : directiveLine keyword (front ++ [last]) =
      commentMark :: ' ' :: (keyword.toList ++ ':' :: ' ' :: front) ++ [last] := by
    simp [directiveLine]
  rw [this, List.getLast?_concat] at hc
  rwa [List.getLast?_concat]

theorem not_mem_directiveLine {keyword : String} {value : List Char} (h : '\n' ∉ value)
    (hKeyword : '\n' ∉ keyword.toList) : '\n' ∉ directiveLine keyword value := by
  simp [directiveLine, commentMark, h, hKeyword]

/-- A line of a header that is kept as it is, and is no blank line. -/
structure IsComment (line : List Char) : Prop where
  content : IsContent line
  comment : isComment line = true

theorem IsComment.isHeaderLine {line : List Char} (h : IsComment line) :
    isHeaderLine line = true := by
  simp [PresetCompiler.isHeaderLine, h.content.trim_eq, h.comment]

theorem isComment_directiveLine {keyword : String} (hKeyword : '\n' ∉ keyword.toList)
    {value : List Char} (h : IsContent value) : IsComment (directiveLine keyword value) :=
  ⟨⟨by simp [directiveLine], trim_directiveLine keyword h, not_mem_directiveLine h.noFeed hKeyword⟩,
    rfl⟩

section Plain

variable {name : String} {activePreset : Option String}

theorem isComment_of_mem_plainHeader (hName : IsContent name.toList)
    (hActive : ∀ active ∈ activePreset, IsContent active.toList) {line : List Char}
    (h : line ∈ plainHeader name activePreset) : IsComment line := by
  rw [plainHeader_eq] at h
  rcases List.mem_cons.mp h with rfl | h
  · exact isComment_directiveLine (by decide) hName
  · obtain ⟨active, hMem, rfl⟩ := Option.map_eq_some_iff.mp (Option.mem_toList.mp h)
    exact isComment_directiveLine (by decide) (hActive active hMem)

/-- A plain header states its name and its active preset. -/
theorem Header.ofLines_plainHeader (hName : IsContent name.toList)
    (hActive : ∀ active ∈ activePreset, IsContent active.toList) :
    ofLines (plainHeader name activePreset) =
      ⟨some name, activePreset, plainHeader name activePreset⟩ := by
  have hBlank : ∀ line ∈ plainHeader name activePreset, isBlankLine line = false := by
    intro line hLine
    have := (isComment_of_mem_plainHeader hName hActive hLine).content
    simp [isBlankLine, this.trim_eq, this.ne_nil]
  have hLines : strip isBlankLine (plainHeader name activePreset) = plainHeader name activePreset :=
    strip_eq_self_iff.mpr ⟨fun line hLine => hBlank line (List.mem_of_mem_head? hLine),
      fun line hLine => hBlank line (List.mem_of_getLast? hLine)⟩
  have hPreset := directive?_self "Preset" (by decide) hName
  have hNotActive : directive? "ActivePreset" (directiveLine "Preset" name.toList) = none :=
    directive?_eq_none (by decide) (by decide) (by decide) hPreset
  rw [ofLines_eq, hLines, plainHeader_eq]
  cases activePreset with
  | none => simp [lastDirective?, trim_directiveLine _ hName, hPreset, hNotActive]
  | some active =>
    have hActive := hActive active rfl
    have hMarked := directive?_self "ActivePreset" (by decide) hActive
    have hNotPreset : directive? "Preset" (directiveLine "ActivePreset" active.toList) = none :=
      directive?_eq_none (by decide) (by decide) (by decide) hMarked
    simp [lastDirective?, trim_directiveLine _ hName, trim_directiveLine _ hActive, hPreset,
      hNotActive, hMarked, hNotPreset]

end Plain

end PresetCompiler
