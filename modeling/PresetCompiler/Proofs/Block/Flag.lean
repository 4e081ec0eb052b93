import PresetCompiler.Block.Flag
import PresetCompiler.Proofs.Text.Squeeze

/-! Where the value of a flag comes from. The search looks at the beginnings of words only, so that
blanks between words do not matter to it: the value found in the content of a text is the value
found in the text itself, as far as its own line feeds allow (`flagValue?_content`). -/

namespace PresetCompiler.Text

/-- What may be searched for at the beginning of a word. -/
structure IsLead (lead : List Char) : Prop where
  ne_nil : lead ≠ []
  noBlank : ∀ c ∈ lead, isBlank c = false

/-- The text that a flag with a value is written with, up to the value. -/
def flagLead (name : String) : List Char :=
  ("--" ++ name ++ "=").toList

theorem flagLead_eq (name : String) : flagLead name = '-' :: '-' :: (name.toList ++ ['=']) := by
  simp [flagLead]

theorem isLead_flagLead {name : String} (h : ∀ c ∈ name.toList, isBlank c = false) :
    IsLead (flagLead name) := by
  refine ⟨by simp [flagLead_eq], fun c hc => ?_⟩
  simp only [flagLead_eq, List.mem_cons, List.mem_append, List.not_mem_nil, or_false] at hc
  rcases hc with rfl | rfl | hc | rfl
  · decide
  · decide
  · exact h c hc
  · decide

theorem flagValue?_eq (name : String) (text : List Char) :
    flagValue? name text = findValue? (flagLead name) true text := rfl

/-! ### Gaps -/

section Lead

variable {lead : List Char} (hLead : IsLead lead)
include hLead

theorem IsLead.after?_cons_blank {c : Char} (h : isBlank c = true) (rest : List Char) :
    after? lead (c :: rest) = none := by
  obtain ⟨k, lead, rfl⟩ := List.exists_cons_of_ne_nil hLead.ne_nil
  rw [after?, if_neg (ne_of_isBlank (hLead.noBlank k List.mem_cons_self) h)]

theorem findValue?_cons_blank {c : Char} (h : isBlank c = true) (free : Bool)
    (rest : List Char) : findValue? lead free (c :: rest) = findValue? lead true rest := by
  have hHere : (if free then (after? lead (c :: rest)).bind value? else none) = none := by
    rw [hLead.after?_cons_blank h, Option.bind_none, ite_self]
  rw [findValue?, hHere, h]

theorem findValue?_trimStart (text : List Char) :
    findValue? lead true (trimStart text) = findValue? lead true text := by
  induction text with
  | nil => rfl
  | cons c text ih =>
    cases hc : isBlank c with
    | true => rw [trimStart_cons_blank hc, ih, findValue?_cons_blank hLead hc]
    | false => rw [trimStart_cons hc]

/-- A text that is empty or begins with a blank is searched from its first word on. -/
theorem findValue?_gap {text : List Char} (h : ∀ c ∈ text.head?, isBlank c = true) (free : Bool) :
    findValue? lead free text = findValue? lead true (trimStart text) := by
  cases text with
  | nil => rfl
  | cons c text =>
    have hc := h c rfl
    rw [findValue?_cons_blank hLead hc, trimStart_cons_blank hc, findValue?_trimStart hLead]

omit hLead in
/-- Within a word there is nothing to find but at its beginning. -/
theorem findValue?_false_append {word : List Char} (h : ∀ c ∈ word, isBlank c = false)
    (rest : List Char) : findValue? lead false (word ++ rest) = findValue? lead false rest := by
  induction word with
  | nil => rfl
  | cons c word ih =>
    rw [List.cons_append, findValue?, if_neg (by decide), h c List.mem_cons_self]
    exact ih fun d hd => h d (List.mem_cons_of_mem c hd)

theorem findValue?_word {word : List Char} (h : ∀ c ∈ word, isBlank c = false) {rest : List Char}
    (hRest : ∀ c ∈ rest.head?, isBlank c = true) :
    findValue? lead false (word ++ rest) = findValue? lead true rest := by
  rw [findValue?_false_append h, findValue?_gap hLead hRest, findValue?_trimStart hLead]

omit hLead in
theorem findValue?_of_not_occursIn {text : List Char} (h : occursIn lead text = false)
    (free : Bool) : findValue? lead free text = none := by
  induction text generalizing free with
  | nil => rfl
  | cons c text ih =>
    rw [occursIn, Bool.or_eq_false_iff] at h
    obtain ⟨hHere, hRest⟩ := h
    rw [startsWith, Option.isSome_eq_false_iff, Option.isNone_iff_eq_none] at hHere
    rw [findValue?, hHere, Option.bind_none, ite_self]
    exact ih hRest (isBlank c)

end Lead

/-! ### Changes between words -/

theorem bareValue?_eq (text : List Char) :
    bareValue? text = if firstWord text = [] then none else some (trimQuotes (firstWord text)) :=
  rfl

theorem value?_cons_blank {c : Char} (h : isBlank c = true) (rest : List Char) :
    value? (c :: rest) = none := by
  have hQuote : c ≠ '"' := (ne_of_isBlank (by decide) h).symm
  rw [value?, if_neg fun hQuoted => hQuote hQuoted.1, bareValue?_eq]
  exact if_pos (List.takeWhile_cons_of_neg (by simp [h]))

theorem isBlank_of_mem_trimQuotes_firstWord {text : List Char} :
    ∀ c ∈ trimQuotes (firstWord text), isBlank c = false := by
  intro c hc
  rw [trimQuotes, List.mem_reverse] at hc
  have hMem := (List.dropWhile_sublist _).subset hc
  rw [List.mem_reverse] at hMem
  have hWord := List.mem_takeWhile_imp ((List.dropWhile_sublist _).subset hMem)
  simpa using hWord

section Change

variable {change inner : List Char → List Char} (h : KeepsWords change)
  (hQuoted : ∀ text, '"' ∈ text →
    (change text).takeWhile (· ≠ '"') = inner (text.takeWhile (· ≠ '"')))
  (hBare : ∀ word : List Char, (∀ c ∈ word, isBlank c = false) → inner word = word)
include h hQuoted hBare

/-- A change between words may reach into a quoted value, but into no other. -/
theorem value?_change (text : List Char) : value? (change text) = (value? text).map inner := by
  cases text with
  | nil => rw [h.nil]; rfl
  | cons c rest =>
    cases hc : isBlank c with
    | true =>
      rw [value?_cons_blank hc]
      rcases h.cons_eq_nil_or hc rest with hNil | ⟨d, after, hCons, hd⟩
      · rw [hNil]; rfl
      · rw [hCons, value?_cons_blank hd]; rfl
    | false =>
      have hMem : '"' ∈ change rest ↔ '"' ∈ rest := h.mem_change (by decide)
      have hWord : bareValue? (change (c :: rest)) = (bareValue? (c :: rest)).map inner := by
        rw [bareValue?_eq, bareValue?_eq, h.firstWord_change]
        split
        · rfl
        · rw [Option.map_some, hBare _ isBlank_of_mem_trimQuotes_firstWord]
      rw [h.cons hc] at hWord ⊢
      rw [value?, value?]
      simp only [hMem]
      split
      · rename_i hClosed
        rw [hQuoted rest hClosed.2]
        rfl
      · exact hWord

theorem findValue?_change {lead : List Char} (hLead : IsLead lead) (free : Bool)
    (text : List Char) :
    findValue? lead free (change text) = (findValue? lead free text).map inner := by
  induction text generalizing free with
  | nil => rw [h.nil]; rfl
  | cons c rest ih =>
    cases hc : isBlank c with
    | true =>
      -- What the change leaves of a gap is nothing or begins with a blank, and either way the search
      -- goes on from the next word.
      calc findValue? lead free (change (c :: rest))
          = findValue? lead true (trimStart (change rest)) := by
            rw [findValue?_gap hLead (h.head?_gap hc rest), h.trimStart_gap hc]
        _ = (findValue? lead true rest).map inner := by rw [findValue?_trimStart hLead, ih]
        _ = (findValue? lead free (c :: rest)).map inner := by rw [findValue?_cons_blank hLead hc]
    | false =>
      have hHere : (after? lead (c :: change rest)).bind value? =
          ((after? lead (c :: rest)).bind value?).map inner := by
        rw [← h.cons hc, h.after?_change hLead.noBlank]
        cases after? lead (c :: rest) with
        | none => rfl
        | some after => exact value?_change h hQuoted hBare after
      rw [h.cons hc, findValue?, findValue?, hHere, hc, ih]
      cases free with
      | false => rfl
      | true => cases (after? lead (c :: rest)).bind value? <;> rfl

end Change

theorem takeWhile_quote_trimEnd {text : List Char} (h : '"' ∈ text) :
    (trimEnd text).takeWhile (· ≠ '"') = text.takeWhile (· ≠ '"') := by
  induction text with
  | nil => rfl
  | cons c text ih =>
    by_cases hQuote : c = '"'
    · subst hQuote
      rw [trimEnd_cons (by decide), List.takeWhile_cons_of_neg (by simp),
        List.takeWhile_cons_of_neg (by simp)]
    · have hMem : '"' ∈ text := (List.mem_cons.mp h).resolve_left (Ne.symm hQuote)
      have hNil : trimEnd text ≠ [] := fun hNil => by
        have := (keepsWords_trimEnd.mem_change (by decide)).mpr hMem
        simp [hNil] at this
      rw [trimEnd_cons_of_ne_nil hNil, List.takeWhile_cons_of_pos (by simpa using hQuote),
        List.takeWhile_cons_of_pos (by simpa using hQuote), ih hMem]

theorem takeWhile_quote_trimStart (text : List Char) :
    (trimStart text).takeWhile (· ≠ '"') = trimStart (text.takeWhile (· ≠ '"')) := by
  induction text with
  | nil => rfl
  | cons c text ih =>
    cases hc : isBlank c with
    | true =>
      have hQuote : c ≠ '"' := (ne_of_isBlank (by decide) hc).symm
      rw [trimStart_cons_blank hc, ih, List.takeWhile_cons_of_pos (by simpa using hQuote),
        trimStart_cons_blank hc]
    | false =>
      rw [trimStart_cons hc]
      by_cases hQuote : c = '"'
      · rw [List.takeWhile_cons_of_neg (by simpa using hQuote), trimStart_nil]
      · rw [List.takeWhile_cons_of_pos (by simpa using hQuote), trimStart_cons hc]

theorem takeWhile_quote_squeeze (text : List Char) :
    (squeeze text).takeWhile (· ≠ '"') = squeeze (text.takeWhile (· ≠ '"')) := by
  induction text with
  | nil => rfl
  | cons c text ih =>
    by_cases hQuote : c = '"'
    · subst hQuote
      rw [squeeze_cons (by decide), List.takeWhile_cons_of_neg (by simp),
        List.takeWhile_cons_of_neg (by simp), squeeze]
    · rw [List.takeWhile_cons_of_pos (by simpa using hQuote)]
      have hHead : (squeeze (text.takeWhile (· ≠ '"'))).head? = some '\n' ↔
          (squeeze text).head? = some '\n' := by
        rw [← ih, List.head?_takeWhile, Option.filter_eq_some_iff]
        simp
      rw [squeeze, squeeze]
      simp only [hHead]
      rw [← ih]
      split
      · rw [List.takeWhile_cons_of_pos (by decide), takeWhile_quote_trimStart]
      · split
        · rfl
        · rw [List.takeWhile_cons_of_pos (by simpa using hQuote)]

/-- In the content of a text a flag has the value that it has in the text, with the blanks around
its line feeds taken away. -/
theorem flagValue?_content {name : String} (hName : ∀ c ∈ name.toList, isBlank c = false)
    (text : List Char) :
    flagValue? name (joinLines (contentLines text)) = (flagValue? name text).map squeeze := by
  have hLead := isLead_flagLead hName
  have hBare (word : List Char) (hWord : ∀ c ∈ word, isBlank c = false) : squeeze word = word :=
    squeeze_of_not_mem fun hFeed => absurd (hWord '\n' hFeed) (by decide)
  calc flagValue? name (joinLines (contentLines text))
      = (findValue? (flagLead name) true (trimStart (squeeze text))).map id := by
        rw [flagValue?_eq, joinLines_contentLines, trim]
        exact findValue?_change keepsWords_trimEnd (fun _ => takeWhile_quote_trimEnd)
          (fun _ _ => rfl) hLead true (trimStart (squeeze text))
    _ = findValue? (flagLead name) true (squeeze text) := by
        rw [Option.map_id, id, findValue?_trimStart hLead]
    _ = (flagValue? name text).map squeeze :=
        findValue?_change keepsWords_squeeze (fun text _ => takeWhile_quote_squeeze text) hBare
          hLead true text

end PresetCompiler.Text
