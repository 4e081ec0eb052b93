import Mathlib.Logic.Relation
import PresetCompiler.Proofs.Preset.Content

/-! The layout of a document: how its lines end, the blanks around them, and the blank lines,
comments and idle separators between them. Each of these may change in its part of the document,
and so may any number of them, without a change to what the document describes. -/

namespace PresetCompiler

open Text

/-- One change to the layout of a document that consists of the given lines. The body of a document
begins at its first line that is neither blank nor a comment, and its blocks begin at the first line
that opens one. -/
inductive LayoutStep : List (List Char) → List (List Char) → Prop
  /-- The line feed after a line becomes a carriage return and a line feed. -/
  | carriageReturn {before after : List (List Char)} {line : List Char}
      (hLine : line.getLast? ≠ some '\r') (hAfter : after ≠ []) :
      LayoutStep (before ++ line :: after) (before ++ (line ++ ['\r']) :: after)
  /-- A line of the body gets blanks at its ends. -/
  | blanks {before after : List (List Char)} {line : List Char} (front back : List Char)
      (hBody : ∃ other ∈ before ++ [line], isHeaderLine other = false)
      (hBlank : ∀ c ∈ front ++ back, isBlank c = true ∧ c ≠ '\n') :
      LayoutStep (before ++ line :: after) (before ++ (front ++ line ++ back) :: after)
  /-- The body gets a blank line. -/
  | blankLine {before after : List (List Char)} {line : List Char} (hFeed : '\n' ∉ line)
      (hBody : ∃ other ∈ before, isHeaderLine other = false) (hLine : trim line = []) :
      LayoutStep (before ++ after) (before ++ line :: after)
  /-- The blocks get a comment line. -/
  | comment {before after : List (List Char)} {line : List Char} (hFeed : '\n' ∉ line)
      (hOpen : ∃ other ∈ before, opensBlock other = true)
      (hLine : isComment (trim line) = true) :
      LayoutStep (before ++ after) (before ++ line :: after)
  /-- The blocks get a separator next to another, or at the end of the document. -/
  | separator {before after : List (List Char)} {line : List Char} (hFeed : '\n' ∉ line)
      (hOpen : ∃ other ∈ before, opensBlock other = true)
      (hLine : trim line = separator.toList)
      (hIdle : (∃ other ∈ before.getLast?, trim other = separator.toList) ∨
        (∃ other ∈ after.head?, trim other = separator.toList) ∨ ∀ other ∈ after, trim other = []) :
      LayoutStep (before ++ after) (before ++ line :: after)

/-- Line lists that any number of changes to the layout lead from one to the other, each of them
made or undone. -/
def SameLayout : List (List Char) → List (List Char) → Prop :=
  Relation.EqvGen LayoutStep

/-! ### Lines that do not count -/

theorem argGroups_append_comment {line : List Char} (h : isComment line = true)
    (region rest : List (List Char)) :
    argGroups (region ++ line :: rest) = argGroups (region ++ rest) := by
  rw [argGroups, argGroups, List.filter_append, List.filter_append,
    List.filter_cons_of_neg (by simp [h])]

theorem argGroups_append_separator (region rest : List (List Char)) :
    argGroups (region ++ separator.toList :: rest) = argGroups region ++ argGroups rest := by
  rw [argGroups, List.filter_append, List.filter_cons_of_pos (by decide), pieces_append (by simp),
    List.filter_append]
  rfl

@[simp] theorem argGroups_nil : argGroups [] = [] := rfl

theorem argGroups_separator_cons (rest : List (List Char)) :
    argGroups (separator.toList :: rest) = argGroups rest :=
  argGroups_append_separator [] rest

theorem argGroups_two_separators (region rest : List (List Char)) :
    argGroups (region ++ separator.toList :: separator.toList :: rest) =
      argGroups (region ++ separator.toList :: rest) := by
  rw [argGroups_append_separator, argGroups_separator_cons, argGroups_append_separator]

/-! ### Documents by their lines -/

section Prefix

variable {test : α → Bool} {xs : List α} (h : ∃ x ∈ xs, test x = false) (ys : List α)
include h

theorem dropWhile_append_of_exists : (xs ++ ys).dropWhile test = xs.dropWhile test ++ ys := by
  rw [List.dropWhile_append, if_neg]
  simpa using h

theorem takeWhile_append_of_exists : (xs ++ ys).takeWhile test = xs.takeWhile test := by
  have hAll : (xs ++ ys).takeWhile test ++ (xs ++ ys).dropWhile test =
      xs.takeWhile test ++ (xs ++ ys).dropWhile test := by
    rw [List.takeWhile_append_dropWhile, dropWhile_append_of_exists h, ← List.append_assoc,
      List.takeWhile_append_dropWhile]
  exact List.append_cancel_right hAll

end Prefix

theorem Preset.ofContent_congr {header body body' : List (List Char)}
    (hBase : body'.takeWhile staysBase = body.takeWhile staysBase)
    (hGroups : argGroups (body'.dropWhile staysBase) = argGroups (body.dropWhile staysBase)) :
    ofContent header body' = ofContent header body := by
  rw [ofContent, ofContent, hBase, hGroups]

/-- What lines with a body describe: their header lines lose a carriage return each, and the others
count by their content. -/
theorem Preset.parse_joinLines {ls : List (List Char)} (hFeed : ∀ line ∈ ls, '\n' ∉ line)
    (hBody : ∃ line ∈ ls, isHeaderLine line = false) :
    parse (String.ofList (joinLines ls)) =
      ofContent ((ls.takeWhile isHeaderLine).map withoutReturn)
        (content (ls.dropWhile isHeaderLine)) := by
  have hSplit : ls.takeWhile isHeaderLine ++ ls.dropWhile isHeaderLine = ls :=
    List.takeWhile_append_dropWhile
  have hNil : ls.dropWhile isHeaderLine ≠ [] := by
    rw [Ne, List.dropWhile_eq_nil_iff]
    simpa using hBody
  have hFeeds : ∀ line ∈ ls.takeWhile isHeaderLine ++ ls.dropWhile isHeaderLine, '\n' ∉ line := by
    rwa [hSplit]
  have hLines : lines (String.ofList (joinLines ls)).toList =
      (ls.takeWhile isHeaderLine).map withoutReturn ++
        lines (joinLines (ls.dropWhile isHeaderLine)) := by
    conv_lhs => rw [String.toList_ofList, ← hSplit]
    exact lines_joinLines_append (fun line h => hFeeds line (List.mem_append_left _ h)) hNil
  have hContent : content (lines (joinLines (ls.dropWhile isHeaderLine))) =
      content (ls.dropWhile isHeaderLine) :=
    contentLines_joinLines fun line h => hFeeds line (List.mem_append_right _ h)
  have hHeader : ∀ line ∈ (ls.takeWhile isHeaderLine).map withoutReturn,
      isHeaderLine line = true :=
    isHeaderLine_of_mem_map fun _ => List.mem_takeWhile_imp
  have hStarts := startsWithArgs_dropWhile ls
  rw [parse_eq_ofContent hLines hHeader (by rwa [StartsWithArgs, hContent]), hContent]

section Body

variable {before rest rest' : List (List Char)}

/-- Lines behind a line of the body count by their content. -/
theorem Preset.parse_joinLines_append (hBody : ∃ line ∈ before, isHeaderLine line = false)
    (hFeed : ∀ line ∈ before ++ rest, '\n' ∉ line) :
    parse (String.ofList (joinLines (before ++ rest))) =
      ofContent ((before.takeWhile isHeaderLine).map withoutReturn)
        (content (before.dropWhile isHeaderLine) ++ content rest) := by
  obtain ⟨line, hLine, hHeader⟩ := hBody
  rw [parse_joinLines hFeed ⟨line, List.mem_append_left rest hLine, hHeader⟩,
    takeWhile_append_of_exists ⟨line, hLine, hHeader⟩,
    dropWhile_append_of_exists ⟨line, hLine, hHeader⟩, content_append]

theorem not_isHeaderLine_of_opensBlock {line : List Char} (h : opensBlock line = true) :
    isHeaderLine line = false := by
  by_contra hHeader
  have hStays := staysBase_of_isHeaderLine (Bool.not_eq_false _ ▸ hHeader)
  rw [staysBase, h] at hStays
  contradiction

theorem exists_mem_content_of_opensBlock (hOpen : ∃ line ∈ before, opensBlock line = true) :
    ∃ line ∈ content (before.dropWhile isHeaderLine), staysBase line = false := by
  obtain ⟨line, hLine, hOpens⟩ := hOpen
  have hHeader := not_isHeaderLine_of_opensBlock hOpens
  have hBody : line ∈ before.dropWhile isHeaderLine := by
    rw [← List.takeWhile_append_dropWhile (p := isHeaderLine) (l := before)] at hLine
    refine (List.mem_append.mp hLine).resolve_left fun hMem => ?_
    rw [List.mem_takeWhile_imp hMem] at hHeader
    contradiction
  have hBlank : trim line ≠ [] := by
    intro hBlank
    rw [isHeaderLine_of_blank hBlank] at hHeader
    contradiction
  refine ⟨trim line, List.mem_filter.mpr ⟨List.mem_map_of_mem hBody, by simpa using hBlank⟩, ?_⟩
  rw [staysBase, opensBlock_trim, hOpens]
  rfl

/-- Lines behind a line that opens a block count by the groups that their content makes. -/
theorem Preset.parse_congr_of_opensBlock (hOpen : ∃ line ∈ before, opensBlock line = true)
    (hFeed : ∀ line ∈ before ++ rest, '\n' ∉ line)
    (hFeed' : ∀ line ∈ before ++ rest', '\n' ∉ line)
    (hGroups : ∀ region, argGroups (region ++ content rest') = argGroups (region ++ content rest)) :
    parse (String.ofList (joinLines (before ++ rest'))) =
      parse (String.ofList (joinLines (before ++ rest))) := by
  have hContent := exists_mem_content_of_opensBlock hOpen
  obtain ⟨line, hLine, hOpens⟩ := hOpen
  have hBody : ∃ line ∈ before, isHeaderLine line = false :=
    ⟨line, hLine, not_isHeaderLine_of_opensBlock hOpens⟩
  rw [parse_joinLines_append hBody hFeed', parse_joinLines_append hBody hFeed]
  apply ofContent_congr
  · rw [takeWhile_append_of_exists hContent, takeWhile_append_of_exists hContent]
  · rw [dropWhile_append_of_exists hContent, dropWhile_append_of_exists hContent, hGroups]

end Body

/-! ### Single changes -/

theorem content_cons_of_separator {line : List Char} (h : trim line = separator.toList)
    (rest : List (List Char)) : content (line :: rest) = separator.toList :: content rest := by
  rw [content_cons_of_ne_nil (h ▸ isContent_separator.ne_nil), h]

/-- A separator makes no group of its own before another one or at the end. -/
theorem argGroups_insert_separator {line : List Char} {after : List (List Char)}
    (hLine : trim line = separator.toList)
    (hIdle : (∃ other ∈ after.head?, trim other = separator.toList) ∨
      ∀ other ∈ after, trim other = []) (region : List (List Char)) :
    argGroups (region ++ content (line :: after)) = argGroups (region ++ content after) := by
  rw [content_cons_of_separator hLine]
  rcases hIdle with ⟨other, hHead, hOther⟩ | hBlank
  · obtain ⟨rest, rfl⟩ := List.head?_eq_some_iff.mp hHead
    rw [content_cons_of_separator hOther, argGroups_two_separators]
  · rw [content_eq_nil_iff.mpr hBlank, argGroups_append_separator, argGroups_nil, List.append_nil,
      List.append_nil]

namespace LayoutStep

/-- A change to the layout puts no line feed into a line, and takes none out of one. -/
theorem not_mem_iff {ls ls' : List (List Char)} (h : LayoutStep ls ls') :
    (∀ line ∈ ls', '\n' ∉ line) ↔ ∀ line ∈ ls, '\n' ∉ line := by
  have hChanged (before after : List (List Char)) {line line' : List Char}
      (hLine : '\n' ∉ line' ↔ '\n' ∉ line) :
      (∀ other ∈ before ++ line' :: after, '\n' ∉ other) ↔
        ∀ other ∈ before ++ line :: after, '\n' ∉ other := by
    rw [List.forall_mem_append, List.forall_mem_append, List.forall_mem_cons, List.forall_mem_cons,
      hLine]
  have hInserted (before after : List (List Char)) {line : List Char} (hLine : '\n' ∉ line) :
      (∀ other ∈ before ++ line :: after, '\n' ∉ other) ↔
        ∀ other ∈ before ++ after, '\n' ∉ other := by
    rw [List.forall_mem_append, List.forall_mem_append, List.forall_mem_cons,
      and_iff_right hLine]
  cases h with
  | carriageReturn => exact hChanged _ _ (by simp)
  | blanks front back _ hBlank =>
    have hFront : '\n' ∉ front := fun h => (hBlank _ (List.mem_append_left _ h)).2 rfl
    have hBack : '\n' ∉ back := fun h => (hBlank _ (List.mem_append_right _ h)).2 rfl
    exact hChanged _ _ (by simp [hFront, hBack])
  | blankLine hFeed | comment hFeed | separator hFeed => exact hInserted _ _ hFeed

theorem lines_carriageReturn {before after : List (List Char)} {line : List Char}
    (hLine : line.getLast? ≠ some '\r') (hAfter : after ≠ [])
    (hFeed : ∀ other ∈ before ++ line :: after, '\n' ∉ other)
    (hFeed' : ∀ other ∈ before ++ (line ++ ['\r']) :: after, '\n' ∉ other) :
    lines (joinLines (before ++ (line ++ ['\r']) :: after)) =
      lines (joinLines (before ++ line :: after)) := by
  have hKept : withoutReturn (line ++ ['\r']) = withoutReturn line := by
    rw [withoutReturn_eq_self hLine, withoutReturn, List.getLast?_concat, if_pos rfl,
      List.dropLast_concat]
  rw [List.append_cons] at hFeed hFeed' ⊢
  rw [List.append_cons before line after,
    lines_joinLines_append (fun other h => hFeed' other (List.mem_append_left _ h)) hAfter,
    lines_joinLines_append (fun other h => hFeed other (List.mem_append_left _ h)) hAfter,
    List.map_append, List.map_append, List.map_singleton, List.map_singleton, hKept]

theorem parse_blanks {before after : List (List Char)} {line padded : List Char}
    (hBody : ∃ other ∈ before ++ [line], isHeaderLine other = false)
    (hTrim : trim padded = trim line)
    (hFeed : ∀ other ∈ before ++ line :: after, '\n' ∉ other)
    (hFeed' : ∀ other ∈ before ++ padded :: after, '\n' ∉ other) :
    Preset.parse (String.ofList (joinLines (before ++ padded :: after))) =
      Preset.parse (String.ofList (joinLines (before ++ line :: after))) := by
  have hContent : content (padded :: after) = content (line :: after) := by
    rw [content, content, List.map_cons, List.map_cons, hTrim]
  by_cases hBefore : ∃ other ∈ before, isHeaderLine other = false
  · rw [Preset.parse_joinLines_append hBefore hFeed', Preset.parse_joinLines_append hBefore hFeed,
      hContent]
  · -- The body begins with this line, and it does so with the blanks as well.
    have hFront : ∀ other ∈ before, isHeaderLine other = true := by simpa using hBefore
    have hLine : isHeaderLine line = false := by
      obtain ⟨other, hOther, hHeader⟩ := hBody
      rcases List.mem_append.mp hOther with hOther | hOther
      · exact absurd ⟨other, hOther, hHeader⟩ hBefore
      · rwa [← List.mem_singleton.mp hOther]
    have hPadded : isHeaderLine padded = false := by
      rwa [isHeaderLine, hTrim, ← isHeaderLine]
    rw [Preset.parse_joinLines hFeed' ⟨padded, by simp, hPadded⟩,
      Preset.parse_joinLines hFeed ⟨line, by simp, hLine⟩]
    simp only [List.takeWhile_append_of_pos hFront, List.dropWhile_append_of_pos hFront]
    have hStop {other : List Char} (h : isHeaderLine other = false) :
        ¬isHeaderLine other = true := by simp [h]
    rw [List.takeWhile_cons_of_neg (hStop hPadded), List.takeWhile_cons_of_neg (hStop hLine),
      List.dropWhile_cons_of_neg (hStop hPadded), List.dropWhile_cons_of_neg (hStop hLine),
      hContent]

/-- One change to the layout does not change what the document describes. -/
theorem parse_eq {ls ls' : List (List Char)} (h : LayoutStep ls ls')
    (hFeed : ∀ line ∈ ls, '\n' ∉ line) :
    Preset.parse (String.ofList (joinLines ls')) = Preset.parse (String.ofList (joinLines ls)) := by
  have hFeed' := h.not_mem_iff.mpr hFeed
  cases h with
  | carriageReturn hLine hAfter =>
    rw [Preset.parse, Preset.parse, String.toList_ofList, String.toList_ofList,
      lines_carriageReturn hLine hAfter hFeed hFeed']
  | blanks front back hBody hBlank =>
    refine parse_blanks hBody (trim_append_append ?_ ?_ _) hFeed hFeed'
    · exact fun c hc => (hBlank c (List.mem_append_left _ hc)).1
    · exact fun c hc => (hBlank c (List.mem_append_right _ hc)).1
  | blankLine _ hBody hLine =>
    rw [Preset.parse_joinLines_append hBody hFeed', Preset.parse_joinLines_append hBody hFeed,
      content_cons_of_blank hLine]
  | @comment _ _ line _ hOpen hLine =>
    refine Preset.parse_congr_of_opensBlock hOpen hFeed hFeed' fun region => ?_
    have hNil : trim line ≠ [] := fun hNil => by simp [hNil, isComment] at hLine
    rw [content_cons_of_ne_nil hNil, argGroups_append_comment hLine]
  | separator _ hOpen hLine hIdle =>
    rcases hIdle with ⟨other, hLast, hOther⟩ | hIdle
    · -- The groups are read from the separator before the inserted one on.
      obtain ⟨front, rfl⟩ := List.getLast?_eq_some_iff.mp hLast
      have hOpen : ∃ line ∈ front, opensBlock line = true := by
        obtain ⟨line, hMem, hOpens⟩ := hOpen
        rcases List.mem_append.mp hMem with hMem | hMem
        · exact ⟨line, hMem, hOpens⟩
        · rw [List.mem_singleton.mp hMem, ← opensBlock_trim, hOther] at hOpens
          contradiction
      rw [List.append_assoc] at hFeed hFeed' ⊢
      rw [List.append_assoc]
      refine Preset.parse_congr_of_opensBlock hOpen hFeed hFeed' fun region => ?_
      rw [List.singleton_append, List.singleton_append, content_cons_of_separator hOther,
        content_cons_of_separator hLine, content_cons_of_separator hOther,
        argGroups_two_separators]
    · exact Preset.parse_congr_of_opensBlock hOpen hFeed hFeed'
        (argGroups_insert_separator hLine hIdle)

end LayoutStep

/-! ### Any number of changes -/

namespace SameLayout

theorem not_mem_iff {ls ls' : List (List Char)} (h : SameLayout ls ls') :
    (∀ line ∈ ls', '\n' ∉ line) ↔ ∀ line ∈ ls, '\n' ∉ line := by
  induction h with
  | rel _ _ hStep => exact hStep.not_mem_iff
  | refl => rfl
  | symm _ _ _ ih => exact ih.symm
  | trans _ _ _ _ _ ih ih' => exact ih'.trans ih

theorem parse_eq {ls ls' : List (List Char)} (h : SameLayout ls ls')
    (hFeed : ∀ line ∈ ls, '\n' ∉ line) :
    Preset.parse (String.ofList (joinLines ls')) = Preset.parse (String.ofList (joinLines ls)) := by
  induction h with
  | rel _ _ hStep => exact hStep.parse_eq hFeed
  | refl => rfl
  | symm _ _ hLayout ih => exact (ih ((not_mem_iff hLayout).mp hFeed)).symm
  | trans _ _ _ hLayout _ ih ih' => exact (ih' ((not_mem_iff hLayout).mpr hFeed)).trans (ih hFeed)

end SameLayout

/-- Changes to the layout of a document, any number of them, do not change what it describes. -/
theorem Preset.parse_sameLayout {document : String} {ls : List (List Char)}
    (h : SameLayout (pieces (· == '\n') document.toList) ls) :
    parse (String.ofList (joinLines ls)) = parse document := by
  rw [h.parse_eq fun _ => not_mem_of_mem_pieces, joinLines_pieces, String.ofList_toList]

/-- A carriage return, a blank line, an indented line, a comment, a second separator, and no line
feed at the end. -/
theorem Preset.parse_sameLayout_idle :
    let document := "# Preset: X\n--a=1\n--filter-tcp=80\n--b\n--new\n--filter-udp=443\n"
    let other := "# Preset: X\r\n--a=1\n\n  --filter-tcp=80\n# note\n--b\n--new\n--new\n" ++
      "--filter-udp=443"
    ∃ ls, SameLayout (pieces (· == '\n') document.toList) ls ∧
      String.ofList (joinLines ls) = other ∧ parse other = parse document := by
  intro document other
  let name := "# Preset: X".toList
  let base := "--a=1".toList
  let lead := "--filter-tcp=80".toList
  let gap := [' ', ' ']
  let indented := gap ++ lead ++ []
  let note := "# note".toList
  let arg := "--b".toList
  let cut := "--new".toList
  let last := "--filter-udp=443".toList
  have hRuns : pieces (· == '\n') document.toList = [name, base, lead, arg, cut, last, []] := by
    decide +kernel
  have hReturn : SameLayout [name, base, lead, arg, cut, last, []]
      [name ++ ['\r'], base, lead, arg, cut, last, []] :=
    .rel _ _ (@LayoutStep.carriageReturn [] _ name (by decide) (by simp))
  have hBlank : SameLayout [name ++ ['\r'], base, lead, arg, cut, last, []]
      [name ++ ['\r'], base, [], lead, arg, cut, last, []] :=
    .rel _ _ (@LayoutStep.blankLine [name ++ ['\r'], base] _ [] (by simp) (by decide) rfl)
  have hGap : ∀ c ∈ gap ++ [], isBlank c = true ∧ c ≠ '\n' := by
    intro c hc
    obtain rfl : c = ' ' := by simpa [gap] using hc
    decide
  have hIndent : SameLayout [name ++ ['\r'], base, [], lead, arg, cut, last, []]
      [name ++ ['\r'], base, [], indented, arg, cut, last, []] :=
    .rel _ _ (@LayoutStep.blanks [name ++ ['\r'], base, []] _ lead gap [] (by decide) hGap)
  have hNote : SameLayout [name ++ ['\r'], base, [], indented, arg, cut, last, []]
      [name ++ ['\r'], base, [], indented, note, arg, cut, last, []] :=
    .rel _ _ (@LayoutStep.comment [name ++ ['\r'], base, [], indented] _ note (by decide)
      (by decide) (by decide))
  have hCut : SameLayout [name ++ ['\r'], base, [], indented, note, arg, cut, last, []]
      [name ++ ['\r'], base, [], indented, note, arg, cut, cut, last, []] :=
    .rel _ _ (@LayoutStep.separator [name ++ ['\r'], base, [], indented, note, arg, cut] _ cut
      (by decide) (by decide) (by decide) (.inl (by decide)))
  have hEnd : SameLayout [name ++ ['\r'], base, [], indented, note, arg, cut, cut, last, []]
      [name ++ ['\r'], base, [], indented, note, arg, cut, cut, last] :=
    .symm _ _ (.rel _ _ (@LayoutStep.blankLine
      [name ++ ['\r'], base, [], indented, note, arg, cut, cut, last] [] [] (by simp) (by decide)
      rfl))
  have hAll : SameLayout (pieces (· == '\n') document.toList)
      [name ++ ['\r'], base, [], indented, note, arg, cut, cut, last] := by
    rw [hRuns]
    exact (((((hReturn.trans _ _ _ hBlank).trans _ _ _ hIndent).trans _ _ _ hNote).trans _ _ _
      hCut).trans _ _ _ hEnd)
  have hText : String.ofList (joinLines [name ++ ['\r'], base, [], indented, note, arg, cut, cut,
      last]) = other := by decide +kernel
  exact ⟨_, hAll, hText, hText ▸ parse_sameLayout hAll⟩

end PresetCompiler
