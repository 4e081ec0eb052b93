import PresetCompiler.Proofs.Text.Squeeze
import PresetCompiler.Proofs.Tokens

/-! Argument lines as sequences of items. An item is a word without quotes, or a flag whose value is
in quotes. The tokens of such lines are their items, without the quotes (`exists_items`). -/

namespace PresetCompiler.Text

/-- What stands between the blanks of an argument line. -/
inductive Item
  | word (text : List Char)
  | flag (name value : List Char)

namespace Item

def text : Item → List Char
  | word text => text
  | flag name value => '-' :: '-' :: (name ++ '=' :: '"' :: (value ++ ['"']))

/-- The token that the item is launched as. -/
def token : Item → List Char
  | word text => text
  | flag name value => '-' :: '-' :: (name ++ '=' :: value)

/-- A word has neither blanks nor quotes, and no flag seems to begin within a quoted value. -/
inductive IsWritten : Item → Prop
  | word {text : List Char} (ne_nil : text ≠ []) (noBlank : ∀ c ∈ text, isBlank c = false)
      (noQuote : '"' ∉ text) : IsWritten (word text)
  | flag {name value : List Char} (noBlank : ∀ c ∈ name, isBlank c = false)
      (noSign : '=' ∉ name) (noQuote : '"' ∉ name) (ne_nil : value ≠ []) (closed : '"' ∉ value)
      (noFeed : '\n' ∉ value) (noFlag : occursIn ['-', '-'] value = false) :
      IsWritten (flag name value)

end Item

/-- A text that is a sequence of items with blanks between them. -/
inductive Itemized : List Item → List Char → Prop
  | nil : Itemized [] []
  | gap {items : List Item} {c : Char} {rest : List Char} (blank : isBlank c = true)
      (tail : Itemized items rest) : Itemized items (c :: rest)
  | item {item : Item} {items : List Item} {rest : List Char} (written : item.IsWritten)
      (ends : ∀ c ∈ rest.head?, isBlank c = true) (tail : Itemized items rest) :
      Itemized (item :: items) (item.text ++ rest)

namespace Itemized

theorem append {front back : List Char} {items others : List Item} (h : Itemized items front)
    (hEnds : ∀ c ∈ back.head?, isBlank c = true) (hBack : Itemized others back) :
    Itemized (items ++ others) (front ++ back) := by
  induction h with
  | nil => exact hBack
  | gap blank _ ih => exact .gap blank ih
  | @item item items rest written ends _ ih =>
    rw [List.append_assoc, List.cons_append]
    refine .item written (fun c hc => ?_) ih
    cases rest with
    | nil => exact hEnds c hc
    | cons d rest => exact ends c hc

end Itemized

/-! ### Items at the ends of a line -/

theorem Item.IsWritten.exists_cons {item : Item} (h : item.IsWritten) :
    ∃ c rest, item.text = c :: rest ∧ isBlank c = false := by
  cases h with
  | @word text ne_nil noBlank _ =>
    obtain ⟨c, rest, rfl⟩ := List.exists_cons_of_ne_nil ne_nil
    exact ⟨c, rest, rfl, noBlank c List.mem_cons_self⟩
  | flag => exact ⟨'-', _, rfl, by decide⟩

theorem Item.IsWritten.exists_concat {item : Item} (h : item.IsWritten) :
    ∃ front c, item.text = front ++ [c] ∧ isBlank c = false := by
  cases h with
  | @word text ne_nil noBlank _ =>
    refine ⟨text.dropLast, text.getLast ne_nil, (List.dropLast_concat_getLast ne_nil).symm, ?_⟩
    exact noBlank _ (List.getLast_mem ne_nil)
  | @flag name value =>
    refine ⟨'-' :: '-' :: (name ++ '=' :: '"' :: value), '"', ?_, by decide⟩
    simp [text]

theorem Itemized.trimStart {items : List Item} {text : List Char} (h : Itemized items text) :
    Itemized items (trimStart text) := by
  induction h with
  | nil => exact .nil
  | gap blank _ ih => rwa [trimStart_cons_blank blank]
  | item written ends tail _ =>
    obtain ⟨c, front, hText, hc⟩ := written.exists_cons
    have hItem := Itemized.item written ends tail
    rw [hText, List.cons_append] at hItem ⊢
    rwa [trimStart_cons hc]

theorem trimEnd_concat_append {c : Char} (hc : isBlank c = false) (front back : List Char) :
    trimEnd (front ++ [c] ++ back) = front ++ [c] ++ trimEnd back := by
  have hNil : trim (c :: back) ≠ [] := fun hNil => by
    have := trim_eq_nil_iff.mp hNil c List.mem_cons_self
    rw [hc] at this
    contradiction
  rw [List.append_assoc, List.singleton_append, trimEnd_append hNil, trimEnd_cons hc,
    List.append_assoc, List.singleton_append]

theorem head?_trimEnd {text : List Char} (h : ∀ c ∈ text.head?, isBlank c = true) :
    ∀ c ∈ (trimEnd text).head?, isBlank c = true := by
  cases text with
  | nil => simp [trimEnd]
  | cons d text => exact keepsWords_trimEnd.head?_gap (h d rfl) text

theorem Itemized.trimEnd {items : List Item} {text : List Char} (h : Itemized items text) :
    Itemized items (trimEnd text) := by
  induction h with
  | nil => exact .nil
  | @gap items c rest blank _ ih =>
    by_cases hNil : Text.trimEnd rest = []
    · rw [trimEnd_cons_of_eq_nil hNil, if_pos blank]
      rwa [hNil] at ih
    · rw [trimEnd_cons_of_ne_nil hNil]
      exact .gap blank ih
  | item written ends _ ih =>
    obtain ⟨front, c, hText, hc⟩ := written.exists_concat
    rw [hText, trimEnd_concat_append hc, ← hText]
    exact .item written (head?_trimEnd ends) ih

theorem Itemized.trim {items : List Item} {text : List Char} (h : Itemized items text) :
    Itemized items (trim text) :=
  h.trimStart.trimEnd

/-! ### Tokens of items -/

theorem tokensFrom_word {word : List Char} (hBlank : ∀ c ∈ word, isBlank c = false)
    (hQuote : '"' ∉ word) (read rest : List Char) :
    tokensFrom (some read) false (word ++ rest) =
      tokensFrom (some (word.reverse ++ read)) false rest := by
  induction word generalizing read with
  | nil => rfl
  | cons c word ih =>
    have hc : c ≠ '"' := fun hSame => hQuote (hSame ▸ List.mem_cons_self)
    have hNext := ih (fun d hd => hBlank d (List.mem_cons_of_mem c hd))
      (fun hMem => hQuote (List.mem_cons_of_mem c hMem)) (c :: read)
    rw [List.cons_append, tokensFrom, if_neg hc, hBlank c List.mem_cons_self, if_neg (by decide)]
    simpa using hNext

theorem tokensFrom_quoted {value : List Char} (hQuote : '"' ∉ value) (read rest : List Char) :
    tokensFrom (some read) true (value ++ rest) =
      tokensFrom (some (value.reverse ++ read)) true rest := by
  induction value generalizing read with
  | nil => rfl
  | cons c value ih =>
    have hc : c ≠ '"' := fun hSame => hQuote (hSame ▸ List.mem_cons_self)
    have hNext := ih (fun hMem => hQuote (List.mem_cons_of_mem c hMem)) (c :: read)
    rw [List.cons_append, tokensFrom, if_neg hc, Bool.not_true, Bool.and_false,
      if_neg (by decide)]
    simpa using hNext

theorem tokensFrom_gap {rest : List Char} (h : ∀ c ∈ rest.head?, isBlank c = true)
    (read : List Char) :
    tokensFrom (some read) false rest =
      String.ofList read.reverse :: tokensFrom none false rest := by
  cases rest with
  | nil => rfl
  | cons c rest =>
    have hc := h c rfl
    have hQuote : c ≠ '"' := (ne_of_isBlank (by decide) hc).symm
    rw [tokensFrom, tokensFrom, if_neg hQuote, if_neg hQuote, hc]
    rfl

theorem tokensFrom_none {c : Char} (h : isBlank c = false) (rest : List Char) :
    tokensFrom none false (c :: rest) = tokensFrom (some []) false (c :: rest) := by
  simp [tokensFrom, h]

theorem tokensFrom_quote (read rest : List Char) (quoted : Bool) :
    tokensFrom (some read) quoted ('"' :: rest) = tokensFrom (some read) (!quoted) rest := by
  rw [tokensFrom, if_pos rfl, Option.getD_some]

theorem tokensFrom_item {item : Item} (h : item.IsWritten) {rest : List Char}
    (hRest : ∀ c ∈ rest.head?, isBlank c = true) :
    tokensFrom none false (item.text ++ rest) =
      String.ofList item.token :: tokensFrom none false rest := by
  have hStart : tokensFrom none false (item.text ++ rest) =
      tokensFrom (some []) false (item.text ++ rest) := by
    obtain ⟨c, after, hText, hc⟩ := h.exists_cons
    rw [hText, List.cons_append, tokensFrom_none hc]
  rw [hStart]
  cases h with
  | @word text _ noBlank noQuote =>
    calc tokensFrom (some []) false (text ++ rest)
        = tokensFrom (some text.reverse) false rest := by
          rw [tokensFrom_word noBlank noQuote, List.append_nil]
      _ = String.ofList text :: tokensFrom none false rest := by
          rw [tokensFrom_gap hRest, List.reverse_reverse]
  | @flag name value noBlank _ noQuote _ closed =>
    let lead := '-' :: '-' :: (name ++ ['='])
    have hBlank : ∀ c ∈ lead, isBlank c = false := by
      intro c hc
      simp only [lead, List.mem_cons, List.mem_append, List.not_mem_nil, or_false] at hc
      rcases hc with rfl | rfl | hc | rfl
      · decide
      · decide
      · exact noBlank c hc
      · decide
    have hQuote : '"' ∉ lead := by simp [lead, noQuote]
    have hText : (Item.flag name value).text ++ rest = lead ++ '"' :: (value ++ '"' :: rest) := by
      simp [Item.text, lead]
    have hToken : (value.reverse ++ lead.reverse).reverse = (Item.flag name value).token := by
      simp [Item.token, lead]
    calc tokensFrom (some []) false ((Item.flag name value).text ++ rest)
        = tokensFrom (some lead.reverse) true (value ++ '"' :: rest) := by
          rw [hText, tokensFrom_word hBlank hQuote, List.append_nil, tokensFrom_quote,
            Bool.not_false]
      _ = tokensFrom (some (value.reverse ++ lead.reverse)) false rest := by
          rw [tokensFrom_quoted closed, tokensFrom_quote, Bool.not_true]
      _ = String.ofList (Item.flag name value).token :: tokensFrom none false rest := by
          rw [tokensFrom_gap hRest, hToken]

theorem tokensFrom_items {items : List Item} {text : List Char} (h : Itemized items text) :
    tokensFrom none false text = items.map fun item => String.ofList item.token := by
  induction h with
  | nil => rfl
  | @gap items c rest blank _ ih =>
    have hQuote : c ≠ '"' := (ne_of_isBlank (by decide) blank).symm
    rw [tokensFrom, if_neg hQuote, blank]
    exact ih
  | item written ends _ ih => rw [tokensFrom_item written ends, ih, List.map_cons]

/-! ### Texts of item lines -/

/-- A line that is a sequence of items and no comment. -/
@[mk_iff] structure IsItemLine (line : List Char) : Prop where
  notComment : isComment (trim line) = false
  items : ∃ items, Itemized items line

theorem lineTokens_content_singleton {items : List Item} {line : List Char}
    (hComment : isComment (trim line) = false) (h : Itemized items line) :
    lineTokens (content [line]) = items.map fun item => String.ofList item.token := by
  have hTokens := tokensFrom_items h.trim
  by_cases hNil : trim line = []
  · rw [content_cons_of_blank hNil, ← hTokens, hNil]
    rfl
  · have hContent : content [line] = [trim line] := by simp [content, hNil]
    rw [hContent, lineTokens, List.filter_cons_of_pos (by rw [hComment]; rfl), ← hTokens]
    simp

theorem exists_eq_withoutReturn_append (line : List Char) :
    ∃ gap, line = withoutReturn line ++ gap ∧ ∀ c ∈ gap, isBlank c = true := by
  by_cases hReturn : line.getLast? = some '\r'
  · obtain ⟨front, rfl⟩ := List.getLast?_eq_some_iff.mp hReturn
    refine ⟨['\r'], ?_, fun c hc => ?_⟩
    · rw [withoutReturn, if_pos hReturn, List.dropLast_concat]
    · rw [List.mem_singleton.mp hc]
      decide
  · exact ⟨[], by rw [withoutReturn_eq_self hReturn, List.append_nil], by simp⟩

theorem Itemized.gap_append {items : List Item} {gap text : List Char}
    (hGap : ∀ c ∈ gap, isBlank c = true) (h : Itemized items text) :
    Itemized items (gap ++ text) := by
  induction gap with
  | nil => exact h
  | cons c gap ih =>
    exact .gap (hGap c List.mem_cons_self) (ih fun d hd => hGap d (List.mem_cons_of_mem c hd))

/-- The items of all lines, in one sequence, are those of the text and of its tokens. -/
theorem exists_items {text : List Char} (h : ∀ line ∈ lines text, IsItemLine line) :
    ∃ items, Itemized items text ∧
      lineTokens (contentLines text) = items.map fun item => String.ofList item.token := by
  induction text using lines_induction with
  | last line hFeed =>
    have hContent : contentLines line = content [line] := contentLines_of_not_mem hFeed
    rw [lines_of_not_mem hFeed] at h
    by_cases hNil : line = []
    · subst hNil
      exact ⟨[], .nil, rfl⟩
    · obtain ⟨hComment, items, hItems⟩ := h line (by simpa using hNil)
      rw [hContent]
      exact ⟨items, hItems, lineTokens_content_singleton hComment hItems⟩
  | feed line rest hFeed ih =>
    rw [lines_append_feed hFeed] at h
    obtain ⟨hComment, items, hItems⟩ := h (withoutReturn line) List.mem_cons_self
    obtain ⟨others, hOthers, hTokens⟩ := ih fun other hOther =>
      h other (List.mem_cons_of_mem _ hOther)
    -- A carriage return belongs to the gap that the line feed makes, and not to the last item.
    obtain ⟨gap, hLine, hGap⟩ := exists_eq_withoutReturn_append line
    have hText : line ++ '\n' :: rest = withoutReturn line ++ (gap ++ '\n' :: rest) := by
      conv_lhs => rw [hLine, List.append_assoc]
    have hEnds : ∀ c ∈ (gap ++ '\n' :: rest).head?, isBlank c = true := by
      cases gap with
      | nil => exact fun c hc => Option.some.inj hc ▸ isBlank_feed
      | cons d gap => exact fun c hc => hGap c (Option.some.inj hc ▸ List.mem_cons_self)
    refine ⟨items ++ others, ?_, ?_⟩
    · rw [hText]
      exact hItems.append hEnds ((hOthers.gap isBlank_feed).gap_append hGap)
    · have hContent : content [line] = content [withoutReturn line] := by simp [content]
      rw [contentLines_append_feed hFeed, lineTokens_append, hContent,
        lineTokens_content_singleton hComment hItems, hTokens, List.map_append]

end PresetCompiler.Text
