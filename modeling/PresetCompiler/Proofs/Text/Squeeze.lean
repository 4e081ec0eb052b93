import Mathlib.Data.List.Chain
import PresetCompiler.Proofs.Text.Segments
import PresetCompiler.Proofs.Text.Words

/-! The content of a text in one pass over its characters. Every run of blanks that holds a line
feed becomes this line feed alone, and the blanks at the ends go: what remains are the trimmed lines
that are not blank (`joinLines_contentLines`). -/

namespace PresetCompiler.Text

/-! ### Line feeds among blanks -/

/-- The text with every run of blanks that holds a line feed replaced by this line feed alone. -/
def squeeze : List Char → List Char
  | [] => []
  | c :: rest =>
    if c = '\n' then '\n' :: trimStart (squeeze rest)
    else if isBlank c ∧ (squeeze rest).head? = some '\n' then squeeze rest
    else c :: squeeze rest

theorem isBlank_feed : isBlank '\n' = true := by decide

theorem squeeze_feed (rest : List Char) :
    squeeze ('\n' :: rest) = '\n' :: trimStart (squeeze rest) :=
  if_pos rfl

theorem squeeze_cons {c : Char} (h : isBlank c = false) (rest : List Char) :
    squeeze (c :: rest) = c :: squeeze rest := by
  rw [squeeze, if_neg (ne_of_isBlank h isBlank_feed), if_neg (by simp [h])]

theorem squeeze_gap {c : Char} (hFeed : c ≠ '\n') {rest : List Char}
    (h : (squeeze rest).head? ≠ some '\n') : squeeze (c :: rest) = c :: squeeze rest := by
  rw [squeeze, if_neg hFeed, if_neg fun hMeets => h hMeets.2]

theorem keepsWords_squeeze : KeepsWords squeeze where
  nil := rfl
  cons h rest := squeeze_cons h rest
  head?_gap {c} h rest d hd := by
    by_cases hFeed : c = '\n'
    · rw [hFeed, squeeze_feed] at hd
      rw [← Option.some.inj hd]
      exact isBlank_feed
    · by_cases hMeets : (squeeze rest).head? = some '\n'
      · rw [squeeze, if_neg hFeed, if_pos ⟨h, hMeets⟩, hMeets] at hd
        rw [← Option.some.inj hd]
        exact isBlank_feed
      · rw [squeeze_gap hFeed hMeets] at hd
        rwa [← Option.some.inj hd]
  trimStart_gap {c} h rest := by
    by_cases hFeed : c = '\n'
    · rw [hFeed, squeeze_feed, trimStart_cons_blank isBlank_feed, trimStart_trimStart]
    · by_cases hMeets : (squeeze rest).head? = some '\n'
      · rw [squeeze, if_neg hFeed, if_pos ⟨h, hMeets⟩]
      · rw [squeeze_gap hFeed hMeets, trimStart_cons_blank h]

/-- A text whose line feeds have no other blank beside them. -/
def HasTightBreaks (text : List Char) : Prop :=
  text.IsChain fun c d => (c = '\n' → isBlank d = false) ∧ (d = '\n' → isBlank c = false)

instance : DecidablePred HasTightBreaks := fun text =>
  inferInstanceAs (Decidable (List.IsChain _ text))

theorem length_squeeze_le (text : List Char) : (squeeze text).length ≤ text.length := by
  induction text with
  | nil => exact Nat.le_refl 0
  | cons c rest ih =>
    rw [squeeze]
    split
    · have := (List.dropWhile_sublist isBlank (l := squeeze rest)).length_le
      rw [← trimStart] at this
      simp only [List.length_cons]
      omega
    · split
      · exact Nat.le_succ_of_le ih
      · exact Nat.succ_le_succ ih

theorem squeeze_of_hasTightBreaks {text : List Char} (h : HasTightBreaks text) :
    squeeze text = text := by
  induction text with
  | nil => rfl
  | cons c rest ih =>
    obtain ⟨hHead, hRest⟩ := List.isChain_cons.mp h
    have hSame := ih hRest
    by_cases hFeed : c = '\n'
    · subst hFeed
      rw [squeeze_feed, hSame]
      cases rest with
      | nil => rfl
      | cons d rest => rw [trimStart_cons ((hHead d rfl).1 rfl)]
    · cases hc : isBlank c with
      | false => rw [squeeze_cons hc, hSame]
      | true =>
        rw [squeeze_gap hFeed, hSame]
        rw [hSame]
        intro hMeets
        have := (hHead '\n' hMeets).2 rfl
        rw [hc] at this
        contradiction

theorem hasTightBreaks_of_squeeze {text : List Char} (h : squeeze text = text) :
    HasTightBreaks text := by
  induction text with
  | nil => exact List.isChain_nil
  | cons c rest ih =>
    have hLength := length_squeeze_le rest
    by_cases hFeed : c = '\n'
    · rw [hFeed, squeeze_feed, List.cons.injEq] at h
      have hTrim : trimStart (squeeze rest) = squeeze rest :=
        (List.dropWhile_sublist isBlank).eq_of_length_le (by rw [← trimStart, h.2]; exact hLength)
      have hSame : squeeze rest = rest := hTrim.symm.trans h.2
      refine List.isChain_cons.mpr ⟨fun d hd => ?_, ih hSame⟩
      have hNext : isBlank d = false := by
        have hHead := List.head?_dropWhile_not isBlank (squeeze rest)
        rw [← trimStart, h.2, Option.mem_def.mp hd] at hHead
        exact hHead
      exact ⟨fun _ => hNext, fun hSecond => absurd hSecond (ne_of_isBlank hNext isBlank_feed)⟩
    · by_cases hMeets : isBlank c ∧ (squeeze rest).head? = some '\n'
      · rw [squeeze, if_neg hFeed, if_pos hMeets] at h
        rw [h, List.length_cons] at hLength
        omega
      · rw [squeeze, if_neg hFeed, if_neg hMeets, List.cons.injEq] at h
        refine List.isChain_cons.mpr ⟨fun d hd => ⟨fun hFirst => absurd hFirst hFeed, ?_⟩, ih h.2⟩
        rintro rfl
        rw [h.2] at hMeets
        exact Bool.eq_false_iff.mpr fun hc => hMeets ⟨hc, hd⟩

theorem squeeze_eq_self_iff {text : List Char} : squeeze text = text ↔ HasTightBreaks text :=
  ⟨hasTightBreaks_of_squeeze, squeeze_of_hasTightBreaks⟩

theorem squeeze_of_not_mem {text : List Char} (h : '\n' ∉ text) : squeeze text = text := by
  induction text with
  | nil => rfl
  | cons c rest ih =>
    have hFeed : c ≠ '\n' := fun hSame => h (hSame ▸ List.mem_cons_self)
    have hRest : '\n' ∉ rest := fun hMem => h (List.mem_cons_of_mem c hMem)
    have hSame := ih hRest
    rw [squeeze_gap hFeed, hSame]
    rw [hSame]
    exact fun hMeets => hRest (List.mem_of_mem_head? hMeets)

/-! ### Content -/

/-- A text stays trimmed between a line feed and another text. -/
theorem trim_append_feed {line text : List Char} (hLine : trim line ≠ []) (hText : trim text ≠ []) :
    trim (trimEnd line ++ '\n' :: trimStart text) = trim line ++ '\n' :: trim text := by
  have hEnd : trim ('\n' :: trimStart text) ≠ [] := by
    rwa [trim_cons_blank isBlank_feed, trim_trimStart]
  have hNil : trimEnd (trimStart text) ≠ [] := hText
  calc trim (trimEnd line ++ '\n' :: trimStart text)
      = trimEnd (trim line ++ '\n' :: trimStart text) := by
        rw [trim, trimStart_append (by rwa [trim_trimEnd]), trimStart_trimEnd]
    _ = trim line ++ '\n' :: trim text := by
        rw [trimEnd_append hEnd, trimEnd_cons_of_ne_nil hNil, trim.eq_def text]

/-- Texts are taken apart at their line feeds. -/
@[elab_as_elim]
theorem lines_induction {motive : List Char → Prop} (text : List Char)
    (last : ∀ line, '\n' ∉ line → motive line)
    (feed : ∀ line rest, '\n' ∉ line → motive rest → motive (line ++ '\n' :: rest)) :
    motive text := by
  have key {ls : List (List Char)} (h : EndsLines ls) : motive ls.flatten := by
    induction h with
    | nil => exact last [] List.not_mem_nil
    | @last line noFeed =>
      rw [List.flatten_singleton]
      exact last line noFeed
    | @cons line rest noFeed ends ih =>
      rw [List.flatten_cons, List.append_assoc, List.singleton_append]
      exact feed line rest.flatten noFeed ih
  rw [← flatten_endedLines text]
  exact key (endsLines_endedLines text)

theorem squeeze_append_feed {line : List Char} (h : '\n' ∉ line) (text : List Char) :
    squeeze (line ++ '\n' :: text) = trimEnd line ++ '\n' :: trimStart (squeeze text) := by
  induction line with
  | nil => exact squeeze_feed text
  | cons c line ih =>
    have hFeed : c ≠ '\n' := fun hSame => h (hSame ▸ List.mem_cons_self)
    have hRest := ih fun hMem => h (List.mem_cons_of_mem c hMem)
    rw [List.cons_append]
    by_cases hNil : trimEnd line = []
    · rw [hNil, List.nil_append] at hRest
      rw [trimEnd_cons_of_eq_nil hNil, squeeze, if_neg hFeed, hRest]
      cases hc : isBlank c <;> simp
    · obtain ⟨d, ending, hEnd⟩ := List.exists_cons_of_ne_nil hNil
      have hLine : '\n' ∉ trimEnd line := fun hMem =>
        h (List.mem_cons_of_mem c ((List.rdropWhile_prefix isBlank line).subset hMem))
      rw [squeeze_gap hFeed, hRest, trimEnd_cons_of_ne_nil hNil, List.cons_append]
      rw [hRest, hEnd]
      rintro hMeets
      exact hLine (hEnd ▸ Option.some.inj hMeets ▸ List.mem_cons_self)

theorem contentLines_append_feed {line : List Char} (h : '\n' ∉ line) (text : List Char) :
    contentLines (line ++ '\n' :: text) = content [line] ++ contentLines text := by
  rw [contentLines_eq, lines_append_feed h, content_cons, contentLines_eq]
  simp [content]

theorem joinLines_ne_nil {line : List Char} (h : line ≠ []) (rest : List (List Char)) :
    joinLines (line :: rest) ≠ [] := by
  by_cases hRest : rest = []
  · simpa [hRest, joinLines] using h
  · rw [joinLines_cons hRest]
    exact List.append_ne_nil_of_left_ne_nil h _

theorem infix_joinLines {ls : List (List Char)} {line : List Char} (h : line ∈ ls) :
    line <:+: joinLines ls := by
  induction ls with
  | nil => simp at h
  | cons first rest ih =>
    by_cases hRest : rest = []
    · subst hRest
      obtain rfl := List.mem_singleton.mp h
      exact ⟨[], [], by simp [joinLines]⟩
    · rw [joinLines_cons hRest]
      rcases List.mem_cons.mp h with rfl | h
      · exact ⟨[], '\n' :: joinLines rest, rfl⟩
      · exact (ih h).trans ⟨first ++ ['\n'], [], by simp⟩

theorem joinLines_contentLines_eq_nil_iff {text : List Char} :
    joinLines (contentLines text) = [] ↔ contentLines text = [] := by
  refine ⟨fun hJoin => ?_, fun hNil => by rw [hNil]; rfl⟩
  by_contra hNil
  obtain ⟨line, rest, hLines⟩ := List.exists_cons_of_ne_nil hNil
  have hLine : line ≠ [] := mem_contentLines (hLines ▸ List.mem_cons_self)
  rw [hLines] at hJoin
  exact joinLines_ne_nil hLine rest hJoin

/-- The trimmed lines of a text that are not blank, as a text of their own. -/
theorem joinLines_contentLines (text : List Char) :
    joinLines (contentLines text) = trim (squeeze text) := by
  induction text using lines_induction with
  | last line hFeed =>
    rw [contentLines_eq, lines_of_not_mem hFeed, content_filter_ne_nil, squeeze_of_not_mem hFeed]
    by_cases hNil : trim line = []
    · rw [content_cons_of_blank hNil, hNil]
      rfl
    · simp [content, hNil, joinLines]
  | feed line rest hFeed ih =>
    rw [squeeze_append_feed hFeed, contentLines_append_feed hFeed]
    -- A blank line leaves no content, and its line feed joins the gap in front of the rest.
    by_cases hLine : trim line = []
    · rw [content_cons_of_blank hLine, content_nil, List.nil_append, ih,
        trimEnd_eq_nil_iff.mpr hLine, List.nil_append, trim_cons_blank isBlank_feed, trim_trimStart]
    · have hContent : content [line] = [trim line] := by simp [content, hLine]
      rw [hContent]
      by_cases hRest : contentLines rest = []
      · have hText : trimStart (squeeze rest) = [] := by
          rw [trimStart_eq_nil_iff, ← ih, hRest]
          rfl
        rw [hRest, hText, trim_append_blank isBlank_feed, trim_trimEnd]
        simp [joinLines]
      · have hText : trim (squeeze rest) ≠ [] := by
          rw [← ih]
          exact fun hNil => hRest (joinLines_contentLines_eq_nil_iff.mp hNil)
        rw [List.singleton_append, joinLines_cons hRest, ih, trim_append_feed hLine hText]

/-! ### What the content keeps -/

theorem occursIn_content {needle : List Char} (hNeedle : ∀ c ∈ needle, isBlank c = false)
    (hNil : needle ≠ []) (text : List Char) :
    occursIn needle (joinLines (contentLines text)) = occursIn needle text :=
  calc occursIn needle (joinLines (contentLines text))
      = occursIn needle (trimEnd (trimStart (squeeze text))) := by
        rw [joinLines_contentLines, trim]
    _ = occursIn needle (trimStart (squeeze text)) :=
        keepsWords_trimEnd.occursIn_change hNeedle hNil _
    _ = occursIn needle (squeeze text) := occursIn_trimStart hNeedle hNil _
    _ = occursIn needle text := keepsWords_squeeze.occursIn_change hNeedle hNil text

theorem words_contentLines (text : List Char) :
    words (joinLines (contentLines text)) = words text :=
  calc words (joinLines (contentLines text))
      = words (trimEnd (trimStart (squeeze text))) := by rw [joinLines_contentLines, trim]
    _ = words (squeeze text) := by rw [keepsWords_trimEnd.words_change, words_trimStart]
    _ = words text := keepsWords_squeeze.words_change text

end PresetCompiler.Text
