import PresetCompiler.Cli.Report
import PresetCompiler.Proofs.Block.Items
import PresetCompiler.Proofs.Filter.WindowSizes

/-! The final tokens of a preset as they are printed. No token holds a double quote or a line feed,
so that tokens printed on a line each are told apart by their lines, and tokens printed on one line
are read back from it with the quotes that printing adds. -/

namespace PresetCompiler

open Text

/-- A token without the characters that the printed form gives a meaning to. -/
@[mk_iff] structure IsPlain (token : String) : Prop where
  noQuote : '"' ∉ token.toList
  noFeed : '\n' ∉ token.toList

instance : DecidablePred IsPlain := fun token => decidable_of_iff' _ (isPlain_iff token)

/-! ### Tokens as they are read -/

theorem isPlain_of_mem_tokensFrom {pending : Option (List Char)} {quoted : Bool} {text : List Char}
    (hPending : ∀ cs ∈ pending, '"' ∉ cs ∧ '\n' ∉ cs) (hText : '\n' ∉ text) :
    ∀ token ∈ tokensFrom pending quoted text, IsPlain token := by
  have hEnded {pending : Option (List Char)} (h : ∀ cs ∈ pending, '"' ∉ cs ∧ '\n' ∉ cs) :
      ∀ token ∈ pending.toList.map fun cs => String.ofList cs.reverse, IsPlain token := by
    intro token hToken
    obtain ⟨cs, hMem, rfl⟩ := List.mem_map.mp hToken
    obtain ⟨hQuote, hFeed⟩ := h cs (Option.mem_toList.mp hMem)
    exact ⟨by simpa using hQuote, by simpa using hFeed⟩
  have hLonger {pending : Option (List Char)} (h : ∀ cs ∈ pending, '"' ∉ cs ∧ '\n' ∉ cs) :
      '"' ∉ pending.getD [] ∧ '\n' ∉ pending.getD [] := by
    cases pending with
    | none => simp
    | some cs => exact h cs rfl
  induction text generalizing pending quoted with
  | nil => exact hEnded hPending
  | cons c text ih =>
    obtain ⟨hFeed, hText⟩ : '\n' ≠ c ∧ '\n' ∉ text := by simpa using hText
    obtain ⟨hNoQuote, hNoFeed⟩ := hLonger hPending
    unfold tokensFrom
    split_ifs with hQuote hGap
    · refine ih (fun cs hcs => ?_) hText
      rw [← Option.some.inj hcs]
      exact ⟨hNoQuote, hNoFeed⟩
    · intro token hToken
      rcases List.mem_append.mp hToken with hToken | hToken
      · exact hEnded hPending token hToken
      · exact ih (by simp) hText token hToken
    · refine ih (fun cs hcs => ?_) hText
      rw [← Option.some.inj hcs]
      exact ⟨by simp [hNoQuote, Ne.symm hQuote], by simp [hNoFeed, hFeed]⟩

theorem Preset.not_mem_of_mem_bodyLines {preset : Preset} {line : List Char}
    (h : line ∈ preset.bodyLines) : '\n' ∉ line := by
  rcases List.mem_append.mp h with h | h
  · exact (isContent_of_mem_contentLines h).noFeed
  · rcases mem_joinGroups h with rfl | ⟨group, hGroup, hLine⟩
    · exact isContent_separator.noFeed
    · obtain ⟨block, -, rfl⟩ := List.mem_map.mp hGroup
      exact (isContent_of_mem_contentLines hLine).noFeed

theorem Preset.isPlain_of_mem_tokens {preset : Preset} :
    ∀ token ∈ preset.tokens, IsPlain token := by
  intro token hToken
  rw [tokens_eq, lineTokens, List.mem_flatMap] at hToken
  obtain ⟨line, hLine, hToken⟩ := hToken
  have hFeed : '\n' ∉ line := not_mem_of_mem_bodyLines (List.mem_filter.mp hLine).1
  exact isPlain_of_mem_tokensFrom (by simp) hFeed token hToken

/-! ### Passes -/

theorem isPlain_widenToken {token : String} (h : IsPlain token) : IsPlain (widenToken token) := by
  unfold widenToken
  split
  · have hKept {c : Char} (hNew : c ∉ allzoneList.toList) (hToken : c ∉ token.toList) :
        c ∉ replaceAll otherList.toList allzoneList.toList token.toList := by
      intro hc
      rcases mem_of_mem_replaceFrom 0 _ hc with hc | hc
      · exact hNew hc
      · exact hToken hc
    rw [isPlain_iff, String.toList_ofList]
    exact ⟨hKept (by decide) h.noQuote, hKept (by decide) h.noFeed⟩
  · exact h

theorem mem_of_mem_setWindowSizes {wildcard : Bool} {token : String} (state : WindowState)
    (tokens : List String) (h : token ∈ setWindowSizes wildcard state tokens) :
    token ∈ windowSizeTokens ∨ token ∈ tokens := by
  have hOwed {state : WindowState} (h : token ∈ state.owed) : token ∈ windowSizeTokens := by
    unfold WindowState.owed at h
    split at h
    · exact h
    · simp at h
  induction tokens generalizing state with
  | nil => exact .inl (hOwed h)
  | cons first rest ih =>
    have hRest {state : WindowState} (h : token ∈ first :: setWindowSizes wildcard state rest) :
        token ∈ windowSizeTokens ∨ token ∈ first :: rest := by
      rcases List.mem_cons.mp h with rfl | h
      · exact .inr List.mem_cons_self
      · exact (ih _ h).imp_right (List.mem_cons_of_mem first)
    unfold setWindowSizes at h
    split at h
    · exact (List.mem_append.mp h).elim (fun h => .inl (hOwed h)) hRest
    · exact hRest h

theorem Switch.isPlain_of_mem_apply {switch : Switch} {wildcard : Bool} {tokens : List String}
    (h : ∀ token ∈ tokens, IsPlain token) :
    ∀ token ∈ (switch.pass wildcard).apply tokens, IsPlain token := by
  intro token hToken
  cases switch with
  | removeHostlists => exact h token (List.mem_filter.mp hToken).1
  | removeIpsets => exact h token (List.mem_filter.mp hToken).1
  | allzone =>
    obtain ⟨before, hBefore, rfl⟩ := List.mem_map.mp hToken
    exact isPlain_widenToken (h before hBefore)
  | wssize =>
    rw [apply_pass_wssize] at hToken
    rcases mem_of_mem_setWindowSizes _ _ hToken with hToken | hToken
    · exact (by decide : ∀ token ∈ windowSizeTokens, IsPlain token) token hToken
    · exact h token hToken

theorem isPlain_of_mem_runSwitches {wildcard : Bool} {sequence : List Switch}
    {tokens : List String} (h : ∀ token ∈ tokens, IsPlain token) :
    ∀ token ∈ runSwitches wildcard sequence tokens, IsPlain token := by
  induction sequence generalizing tokens with
  | nil => exact h
  | cons switch rest ih => exact ih (switch.isPlain_of_mem_apply h)

theorem Preset.isPlain_of_mem_compile {preset : Preset} {settings : FilterSettings} :
    ∀ token ∈ preset.compile settings, IsPlain token := by
  rw [compile, settings.applyAll_eq_runSwitches]
  exact isPlain_of_mem_runSwitches isPlain_of_mem_tokens

/-! ### A line each -/

/-- Tokens printed on a line each are the texts between the line feeds. -/
theorem pieces_printLines {tokens : List String} (h : ∀ token ∈ tokens, IsPlain token) :
    pieces (· == '\n') (Cli.printLines tokens).toList = tokens.map String.toList ++ [[]] := by
  induction tokens with
  | nil => rfl
  | cons token rest ih =>
    have hToken := ne_feed_of_not_mem (h token List.mem_cons_self).noFeed
    have hText : (Cli.printLines (token :: rest)).toList =
        token.toList ++ '\n' :: (Cli.printLines rest).toList := by
      simp [Cli.printLines, String.toList_join]
    rw [hText, pieces_append_cons hToken (by decide),
      ih fun other hOther => h other (List.mem_cons_of_mem token hOther)]
    rfl

/-! ### One line -/

theorem quoteToken_cases (token : String) :
    (quoteToken token).toList = '"' :: (token.toList ++ ['"']) ∨
      (quoteToken token).toList = token.toList ∧ token.toList ≠ [] ∧
        ∀ c ∈ token.toList, isBlank c = false := by
  unfold quoteToken
  split
  · simp
  · rename_i h
    simp only [Bool.or_eq_true, decide_eq_true_eq, not_or, Bool.not_eq_true,
      List.any_eq_false] at h
    exact .inr ⟨rfl, String.toList_eq_nil_iff.not.mpr h.1, h.2⟩

/-- A printed token is read back where a blank or nothing follows it. -/
theorem tokensFrom_quoteToken {token : String} (h : IsPlain token) {rest : List Char}
    (hRest : ∀ c ∈ rest.head?, isBlank c = true) :
    tokensFrom none false ((quoteToken token).toList ++ rest) =
      token :: tokensFrom none false rest := by
  have hEnd : tokensFrom (some token.toList.reverse) false rest =
      token :: tokensFrom none false rest := by
    rw [tokensFrom_gap hRest, List.reverse_reverse, String.ofList_toList]
  rcases quoteToken_cases token with hText | ⟨hText, hNil, hBlank⟩
  · calc tokensFrom none false ((quoteToken token).toList ++ rest)
        = tokensFrom (some []) true (token.toList ++ '"' :: rest) := by
          simp [hText, tokensFrom]
      _ = tokensFrom (some token.toList.reverse) false rest := by
          rw [tokensFrom_quoted h.noQuote, tokensFrom_quote, List.append_nil, Bool.not_true]
      _ = token :: tokensFrom none false rest := hEnd
  · obtain ⟨c, text, hCons⟩ := List.exists_cons_of_ne_nil hNil
    have hStart : tokensFrom none false (token.toList ++ rest) =
        tokensFrom (some []) false (token.toList ++ rest) := by
      rw [hCons, List.cons_append, tokensFrom_none (hBlank c (hCons ▸ List.mem_cons_self))]
    rw [hText, hStart, tokensFrom_word hBlank h.noQuote, List.append_nil, hEnd]

theorem isContent_quoteToken {token : String} (h : IsPlain token) :
    IsContent (quoteToken token).toList := by
  have hQuote : isBlank '"' = false := by decide
  rcases quoteToken_cases token with hText | ⟨hText, hNil, hBlank⟩
  · rw [hText]
    refine ⟨by simp, trim_eq_self_iff.mpr ⟨?_, ?_⟩, by simp [h.noFeed]⟩
    · simpa using hQuote
    · rw [← List.cons_append, List.getLast?_concat]
      simpa using hQuote
  · rw [hText]
    refine ⟨hNil, trim_eq_self_iff.mpr ⟨?_, ?_⟩, h.noFeed⟩
    · intro c hc
      exact hBlank c (List.mem_of_mem_head? hc)
    · intro c hc
      exact hBlank c (List.mem_of_getLast? hc)

theorem toList_printTokens (tokens : List String) :
    (printTokens tokens).toList =
      List.intercalate [' '] (tokens.map fun token => (quoteToken token).toList) := by
  rw [printTokens, String.toList_intercalate, List.map_map]
  rfl

theorem toList_printTokens_cons {rest : List String} (h : rest ≠ []) (token : String) :
    (printTokens (token :: rest)).toList =
      (quoteToken token).toList ++ ' ' :: (printTokens rest).toList := by
  rw [toList_printTokens, toList_printTokens, List.map_cons,
    List.intercalate_cons_of_ne_nil (by simpa using h), List.append_assoc, List.singleton_append]

theorem printTokens_singleton (token : String) : printTokens [token] = quoteToken token := rfl

theorem tokensFrom_printTokens {tokens : List String} (h : ∀ token ∈ tokens, IsPlain token) :
    tokensFrom none false (printTokens tokens).toList = tokens := by
  induction tokens with
  | nil => rfl
  | cons token rest ih =>
    have hToken := h token List.mem_cons_self
    have hNext := ih fun other hOther => h other (List.mem_cons_of_mem token hOther)
    by_cases hRest : rest = []
    · have hRead := @tokensFrom_quoteToken token hToken [] (by simp)
      rw [List.append_nil] at hRead
      rw [hRest, printTokens_singleton, hRead]
      rfl
    · have hGap (text : List Char) :
          tokensFrom none false (' ' :: text) = tokensFrom none false text := rfl
      rw [toList_printTokens_cons hRest, tokensFrom_quoteToken hToken (by simp; decide), hGap,
        hNext]

theorem Text.IsContent.append_space {front back : List Char} (hFront : IsContent front)
    (hBack : IsContent back) : IsContent (front ++ ' ' :: back) := by
  refine ⟨by simp, trim_eq_self_iff.mpr ⟨?_, ?_⟩, ?_⟩
  · rw [List.head?_append_of_ne_nil _ hFront.ne_nil]
    exact (trim_eq_self_iff.mp hFront.trim_eq).1
  · rw [List.getLast?_append_of_ne_nil _ (by simp), List.getLast?_cons_of_ne_nil hBack.ne_nil]
    exact (trim_eq_self_iff.mp hBack.trim_eq).2
  · simp [hFront.noFeed, hBack.noFeed]

theorem isContent_printTokens {tokens : List String} (hNil : tokens ≠ [])
    (h : ∀ token ∈ tokens, IsPlain token) : IsContent (printTokens tokens).toList := by
  induction tokens with
  | nil => contradiction
  | cons token rest ih =>
    have hToken := isContent_quoteToken (h token List.mem_cons_self)
    by_cases hRest : rest = []
    · rwa [hRest, printTokens_singleton]
    · rw [toList_printTokens_cons hRest]
      exact hToken.append_space
        (ih hRest fun other hOther => h other (List.mem_cons_of_mem token hOther))

theorem head?_printTokens {token : String} {rest : List String} (h : IsPlain token) :
    (printTokens (token :: rest)).toList.head? = (quoteToken token).toList.head? := by
  by_cases hRest : rest = []
  · rw [hRest, printTokens_singleton]
  · rw [toList_printTokens_cons hRest,
      List.head?_append_of_ne_nil _ (isContent_quoteToken h).ne_nil]

/-- The printed line is a comment only if the first token would begin one. -/
theorem not_isComment_printTokens {tokens : List String} (h : ∀ token ∈ tokens, IsPlain token)
    (hFirst : ∀ token ∈ tokens.head?, isComment token.toList = false) :
    isComment (printTokens tokens).toList = false := by
  cases tokens with
  | nil => rfl
  | cons token rest =>
    have hToken := hFirst token rfl
    unfold isComment at hToken ⊢
    rw [head?_printTokens (h token List.mem_cons_self)]
    rcases quoteToken_cases token with hText | ⟨hText, -⟩
    · simp [hText, commentMark]
    · rwa [hText]

theorem tokenize_printTokens {tokens : List String} (h : ∀ token ∈ tokens, IsPlain token)
    (hFirst : ∀ token ∈ tokens.head?, isComment token.toList = false) :
    tokenize (printTokens tokens) = tokens := by
  by_cases hNil : tokens = []
  · rw [hNil]
    rfl
  · have hContent := isContent_printTokens hNil h
    have hLines : contentLines (printTokens tokens).toList = [(printTokens tokens).toList] := by
      rw [contentLines_of_not_mem hContent.noFeed, content_eq_self (by simpa using hContent)]
    rw [tokenize, hLines, List.filter_cons_of_pos (by simp [not_isComment_printTokens h hFirst])]
    simpa using tokensFrom_printTokens h

/-- The line feed that printing puts after a line changes no token. -/
theorem tokenize_printLines {text : String} (h : '\n' ∉ text.toList) :
    tokenize (Cli.printLines [text]) = tokenize text := by
  have hText : (Cli.printLines [text]).toList = text.toList ++ '\n' :: [] := by
    simp [Cli.printLines]
  have hNone : contentLines [] = [] := rfl
  rw [tokenize, tokenize, hText, contentLines_append_feed h, contentLines_of_not_mem h, hNone,
    List.append_nil]

/-- The final tokens of a preset hold neither double quotes nor line feeds. Printed on a line each,
they are what stands between the line feeds, and printed on one line they are its tokens, unless the
first begins a comment. -/
theorem Preset.compile_printed (preset : Preset) (settings : FilterSettings) :
    (∀ token ∈ preset.compile settings, '"' ∉ token.toList ∧ '\n' ∉ token.toList) ∧
    pieces (· == '\n') (Cli.printLines (preset.compile settings)).toList =
      (preset.compile settings).map String.toList ++ [[]] ∧
    ((∀ token ∈ (preset.compile settings).head?, token.toList.head? ≠ some '#') →
      tokenize (printTokens (preset.compile settings)) = preset.compile settings ∧
      tokenize (Cli.printLines [printTokens (preset.compile settings)]) =
        preset.compile settings) := by
  have hPlain : ∀ token ∈ preset.compile settings, IsPlain token := isPlain_of_mem_compile
  refine ⟨fun token hToken => ?_, pieces_printLines hPlain, fun hFirst => ?_⟩
  · exact ⟨(hPlain token hToken).noQuote, (hPlain token hToken).noFeed⟩
  · have hRead : tokenize (printTokens (preset.compile settings)) = preset.compile settings := by
      refine tokenize_printTokens hPlain fun token hToken => ?_
      exact decide_eq_false (hFirst token hToken)
    have hFeed : '\n' ∉ (printTokens (preset.compile settings)).toList := by
      by_cases hNil : preset.compile settings = []
      · rw [hNil]
        decide
      · exact (isContent_printTokens hNil hPlain).noFeed
    exact ⟨hRead, (tokenize_printLines hFeed).trans hRead⟩

/-- An empty token, tokens with blanks inside and at their ends, and a token that begins like a
comment but is not the first. -/
theorem Preset.compile_printed_blanks :
    let preset : Preset := { Preset.new "Blanks" with
      baseArgs := "\"\" --list=\"a b.txt\" \" lead\" \"tail\r\"\n--x #y" }
    let tokens := preset.compile .off
    tokens = ["", "--list=a b.txt", " lead", "tail\r", "--x", "#y"] ∧
      (∀ token ∈ tokens.head?, token.toList.head? ≠ some '#') ∧
      tokenize (printTokens tokens) = tokens ∧
      tokenize (Cli.printLines [printTokens tokens]) = tokens := by
  intro preset tokens
  have hFirst : ∀ token ∈ tokens.head?, token.toList.head? ≠ some '#' := by decide +kernel
  exact ⟨by decide +kernel, hFirst, (preset.compile_printed .off).2.2 hFirst⟩

end PresetCompiler
