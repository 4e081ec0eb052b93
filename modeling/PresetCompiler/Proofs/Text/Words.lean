import PresetCompiler.Proofs.Text.Trim
import PresetCompiler.Text.Find

/-! The words of a text, and changes that touch only the blanks around them. Such a change keeps the
words and whatever is found at the beginning of a word. Trimming the end of a text is one. -/

namespace PresetCompiler.Text

theorem ne_of_isBlank {c d : Char} (hc : isBlank c = false) (hd : isBlank d = true) : c ≠ d :=
  fun hSame => by rw [hSame, hd] at hc; contradiction

theorem noBlank_of_all {text : List Char} (h : (text.all fun c => !isBlank c) = true) :
    ∀ c ∈ text, isBlank c = false := by
  simpa using h

/-! ### Blanks at the start -/

@[simp] theorem trimStart_nil : trimStart [] = [] := rfl

theorem trimStart_cons_blank {c : Char} (h : isBlank c = true) (text : List Char) :
    trimStart (c :: text) = trimStart text :=
  List.dropWhile_cons_of_pos h

theorem trimStart_cons {c : Char} (h : isBlank c = false) (text : List Char) :
    trimStart (c :: text) = c :: text :=
  List.dropWhile_cons_of_neg (by simp [h])

theorem trimStart_gap_append {gap : List Char} (h : ∀ c ∈ gap, isBlank c = true)
    (text : List Char) : trimStart (gap ++ text) = trimStart text :=
  List.dropWhile_append_of_pos h

theorem exists_gap_append (text : List Char) :
    ∃ gap, text = gap ++ trimStart text ∧ ∀ c ∈ gap, isBlank c = true :=
  ⟨text.takeWhile isBlank, List.takeWhile_append_dropWhile.symm, fun _ => List.mem_takeWhile_imp⟩

@[simp] theorem trimStart_trimStart (text : List Char) :
    trimStart (trimStart text) = trimStart text :=
  List.dropWhile_idempotent isBlank text

theorem mem_trimStart {c : Char} (h : isBlank c = false) {text : List Char} :
    c ∈ trimStart text ↔ c ∈ text := by
  induction text with
  | nil => rfl
  | cons d text ih =>
    cases hd : isBlank d with
    | true => rw [trimStart_cons_blank hd, ih, List.mem_cons, or_iff_right (ne_of_isBlank h hd)]
    | false => rw [trimStart_cons hd]

theorem startsWithAny_iff {leads : List String} {text : List Char} :
    startsWithAny (leads.map String.toList) text = true ↔
      ∃ lead ∈ leads, ∃ rest, text = lead.toList ++ rest := by
  simp [startsWithAny, startsWith_iff]

theorem occursIn_iff {needle text : List Char} :
    occursIn needle text = true ↔ needle <:+: text := by
  induction text with
  | nil => simp [occursIn, List.isEmpty_iff]
  | cons c text ih =>
    rw [occursIn, Bool.or_eq_true, ih, List.infix_cons_iff, startsWith_iff]
    exact or_congr_left ⟨fun ⟨rest, h⟩ => ⟨rest, h.symm⟩, fun ⟨rest, h⟩ => ⟨rest, h.symm⟩⟩

section Needle

variable {needle : List Char} (hNeedle : ∀ c ∈ needle, isBlank c = false) (hNil : needle ≠ [])
include hNeedle hNil

theorem occursIn_cons_blank {c : Char} (h : isBlank c = true) (text : List Char) :
    occursIn needle (c :: text) = occursIn needle text := by
  obtain ⟨k, needle, rfl⟩ := List.exists_cons_of_ne_nil hNil
  have hne := ne_of_isBlank (hNeedle k List.mem_cons_self) h
  simp [occursIn, startsWith, after?, hne]

theorem occursIn_trimStart (text : List Char) :
    occursIn needle (trimStart text) = occursIn needle text := by
  induction text with
  | nil => rfl
  | cons c text ih =>
    cases hc : isBlank c with
    | true => rw [trimStart_cons_blank hc, ih, occursIn_cons_blank hNeedle hNil hc]
    | false => rw [trimStart_cons hc]

end Needle

/-! ### Words -/

/-- The run of characters at the start of a text that are not blank. -/
def firstWord (text : List Char) : List Char :=
  text.takeWhile fun c => !isBlank c

def afterWord (text : List Char) : List Char :=
  text.dropWhile fun c => !isBlank c

theorem words_cons_blank {c : Char} (h : isBlank c = true) (text : List Char) :
    words (c :: text) = words text := by
  simp [words, pieces, h]

theorem words_trimStart (text : List Char) : words (trimStart text) = words text := by
  induction text with
  | nil => rfl
  | cons c text ih =>
    cases hc : isBlank c with
    | true => rw [trimStart_cons_blank hc, ih, words_cons_blank hc]
    | false => rw [trimStart_cons hc]

theorem exists_pieces_eq (text : List Char) :
    ∃ runs, pieces isBlank text = firstWord text :: runs ∧
      runs.filter (· ≠ []) = words (afterWord text) := by
  induction text with
  | nil => exact ⟨[], rfl, rfl⟩
  | cons c text ih =>
    cases hc : isBlank c with
    | true =>
      have hFirst : firstWord (c :: text) = [] := List.takeWhile_cons_of_neg (by simp [hc])
      have hAfter : afterWord (c :: text) = c :: text := List.dropWhile_cons_of_neg (by simp [hc])
      refine ⟨pieces isBlank text, ?_, ?_⟩
      · rw [hFirst, pieces, if_pos hc]
      · rw [hAfter, words_cons_blank hc, words]
    | false =>
      obtain ⟨runs, hPieces, hRuns⟩ := ih
      have hFirst : firstWord (c :: text) = c :: firstWord text :=
        List.takeWhile_cons_of_pos (by simp [hc])
      have hAfter : afterWord (c :: text) = afterWord text :=
        List.dropWhile_cons_of_pos (by simp [hc])
      refine ⟨runs, ?_, ?_⟩
      · rw [hFirst, pieces, if_neg (by simp [hc]), hPieces]
      · rw [hAfter, hRuns]

/-- A text begins with its first word, unless it begins with a blank, and its other words follow. -/
theorem words_eq (text : List Char) :
    words text = [firstWord text].filter (· ≠ []) ++ words (afterWord text) := by
  obtain ⟨runs, hPieces, hRuns⟩ := exists_pieces_eq text
  rw [words, hPieces, ← hRuns, ← List.filter_append, List.singleton_append]

/-! ### Changes between words -/

/-- A change of a text that touches only the blanks between its words and those at its end. -/
structure KeepsWords (change : List Char → List Char) : Prop where
  nil : change [] = []
  cons {c : Char} (h : isBlank c = false) (rest : List Char) :
    change (c :: rest) = c :: change rest
  head?_gap {c : Char} (h : isBlank c = true) (rest : List Char) :
    ∀ d ∈ (change (c :: rest)).head?, isBlank d = true
  trimStart_gap {c : Char} (h : isBlank c = true) (rest : List Char) :
    trimStart (change (c :: rest)) = trimStart (change rest)

namespace KeepsWords

variable {change : List Char → List Char} (h : KeepsWords change)
include h

theorem cons_eq_nil_or {c : Char} (hc : isBlank c = true) (rest : List Char) :
    change (c :: rest) = [] ∨ ∃ d after, change (c :: rest) = d :: after ∧ isBlank d = true := by
  cases hChange : change (c :: rest) with
  | nil => exact .inl rfl
  | cons d after => exact .inr ⟨d, after, rfl, h.head?_gap hc rest d (by rw [hChange]; rfl)⟩

theorem after?_change {lead : List Char} (hLead : ∀ c ∈ lead, isBlank c = false)
    (text : List Char) : after? lead (change text) = (after? lead text).map change := by
  induction lead generalizing text with
  | nil => rfl
  | cons k lead ih =>
    have hk := hLead k List.mem_cons_self
    cases text with
    | nil => rw [h.nil]; rfl
    | cons c text =>
      cases hc : isBlank c with
      | false =>
        rw [h.cons hc, after?, after?]
        split
        · exact ih (fun d hd => hLead d (List.mem_cons_of_mem k hd)) text
        · rfl
      | true =>
        rw [after?, if_neg (ne_of_isBlank hk hc)]
        rcases h.cons_eq_nil_or hc text with hNil | ⟨d, after, hCons, hd⟩
        · rw [hNil]; rfl
        · rw [hCons, after?, if_neg (ne_of_isBlank hk hd)]; rfl

theorem startsWith_change {lead : List Char} (hLead : ∀ c ∈ lead, isBlank c = false)
    (text : List Char) : startsWith lead (change text) = startsWith lead text := by
  rw [startsWith, h.after?_change hLead, Option.isSome_map]
  rfl

theorem mem_change {c : Char} (hc : isBlank c = false) {text : List Char} :
    c ∈ change text ↔ c ∈ text := by
  induction text with
  | nil => rw [h.nil]
  | cons d text ih =>
    cases hd : isBlank d with
    | true =>
      rw [← mem_trimStart hc, h.trimStart_gap hd, mem_trimStart hc, ih, List.mem_cons,
        or_iff_right (ne_of_isBlank hc hd)]
    | false => rw [h.cons hd, List.mem_cons, List.mem_cons, ih]

theorem firstWord_change (text : List Char) : firstWord (change text) = firstWord text := by
  induction text with
  | nil => rw [h.nil]
  | cons c text ih =>
    cases hc : isBlank c with
    | true =>
      have hNone {d : Char} (hd : isBlank d = true) (after : List Char) :
          firstWord (d :: after) = [] := List.takeWhile_cons_of_neg (by simp [hd])
      rw [hNone hc]
      rcases h.cons_eq_nil_or hc text with hNil | ⟨d, after, hCons, hd⟩
      · rw [hNil]; rfl
      · rw [hCons, hNone hd]
    | false =>
      rw [h.cons hc, firstWord, List.takeWhile_cons_of_pos (by simp [hc]), firstWord,
        List.takeWhile_cons_of_pos (by simp [hc])]
      exact congrArg (c :: ·) ih

theorem words_change (text : List Char) : words (change text) = words text := by
  induction text with
  | nil => rw [h.nil]
  | cons c text ih =>
    cases hc : isBlank c with
    | true => rw [← words_trimStart, h.trimStart_gap hc, words_trimStart, ih, words_cons_blank hc]
    | false =>
      -- The word under way is the same on both sides, and so are therefore those after it.
      rw [words_eq (change text), words_eq text, h.firstWord_change] at ih
      have hFirst (text : List Char) : firstWord (c :: text) = c :: firstWord text :=
        List.takeWhile_cons_of_pos (by simp [hc])
      have hAfter (text : List Char) : afterWord (c :: text) = afterWord text :=
        List.dropWhile_cons_of_pos (by simp [hc])
      rw [h.cons hc, words_eq, words_eq (c :: text), hFirst, hFirst, hAfter, hAfter,
        h.firstWord_change, List.append_cancel_left ih]

theorem occursIn_change {needle : List Char} (hNeedle : ∀ c ∈ needle, isBlank c = false)
    (hNil : needle ≠ []) (text : List Char) :
    occursIn needle (change text) = occursIn needle text := by
  induction text with
  | nil => rw [h.nil]
  | cons c text ih =>
    cases hc : isBlank c with
    | true =>
      rw [← occursIn_trimStart hNeedle hNil, h.trimStart_gap hc, occursIn_trimStart hNeedle hNil,
        ih, occursIn_cons_blank hNeedle hNil hc]
    | false =>
      rw [h.cons hc, occursIn, occursIn, ih, ← h.cons hc, h.startsWith_change hNeedle]

end KeepsWords

/-! ### Blanks at the end -/

theorem trimEnd_eq (text : List Char) : trimEnd text = text.rdropWhile isBlank := rfl

theorem trimEnd_cons_of_ne_nil {text : List Char} (h : trimEnd text ≠ []) (c : Char) :
    trimEnd (c :: text) = c :: trimEnd text := by
  rw [trimEnd, List.reverse_cons, List.dropWhile_append]
  split
  · rename_i hEmpty
    simp [trimEnd, List.isEmpty_iff.mp hEmpty] at h
  · simp [trimEnd]

theorem trimEnd_cons_of_eq_nil {text : List Char} (h : trimEnd text = []) (c : Char) :
    trimEnd (c :: text) = if isBlank c then [] else [c] := by
  rw [trimEnd, List.reverse_eq_nil_iff] at h
  rw [trimEnd, List.reverse_cons, List.dropWhile_append, h, List.isEmpty_nil, if_pos rfl]
  cases hc : isBlank c <;> simp [hc]

theorem trimEnd_cons {c : Char} (h : isBlank c = false) (text : List Char) :
    trimEnd (c :: text) = c :: trimEnd text := by
  by_cases hNil : trimEnd text = []
  · rw [trimEnd_cons_of_eq_nil hNil, hNil, h]
    rfl
  · exact trimEnd_cons_of_ne_nil hNil c

theorem keepsWords_trimEnd : KeepsWords trimEnd where
  nil := rfl
  cons h rest := trimEnd_cons h rest
  head?_gap {c} h rest d hd := by
    by_cases hNil : trimEnd rest = []
    · simp [trimEnd_cons_of_eq_nil hNil, h] at hd
    · rw [trimEnd_cons_of_ne_nil hNil] at hd
      rwa [← Option.some.inj hd]
  trimStart_gap {c} h rest := by
    by_cases hNil : trimEnd rest = []
    · rw [trimEnd_cons_of_eq_nil hNil, hNil, if_pos h]
    · rw [trimEnd_cons_of_ne_nil hNil, trimStart_cons_blank h]

theorem trim_eq_nil_iff {text : List Char} : trim text = [] ↔ ∀ c ∈ text, isBlank c = true := by
  constructor
  · intro hNil
    obtain ⟨front, back, hSplit, hFront, hBack⟩ := exists_append_strip isBlank text
    rw [← trim_eq_strip, hNil, List.append_nil] at hSplit
    rw [hSplit]
    exact fun c hc => (List.mem_append.mp hc).elim (hFront c) (hBack c)
  · intro h
    have hStart : trimStart text = [] := List.dropWhile_eq_nil_iff.mpr h
    rw [trim, hStart]
    rfl

theorem trimStart_eq_nil_iff {text : List Char} : trimStart text = [] ↔ trim text = [] := by
  rw [trim_eq_nil_iff, trimStart, List.dropWhile_eq_nil_iff]

theorem trimEnd_eq_nil_iff {text : List Char} : trimEnd text = [] ↔ trim text = [] := by
  rw [trim_eq_nil_iff, trimEnd_eq, List.rdropWhile_eq_nil_iff]

theorem trimStart_trimEnd (text : List Char) : trimStart (trimEnd text) = trim text := by
  induction text with
  | nil => rfl
  | cons c text ih =>
    cases hc : isBlank c with
    | true => rw [keepsWords_trimEnd.trimStart_gap hc, ih, trim_cons_blank hc]
    | false => rw [trimEnd_cons hc, trimStart_cons hc, ← trimEnd_cons hc, trim, trimStart_cons hc]

theorem trimStart_append {front : List Char} (h : trim front ≠ []) (back : List Char) :
    trimStart (front ++ back) = trimStart front ++ back := by
  have hStart : trimStart front ≠ [] := fun hNil => h (trimStart_eq_nil_iff.mp hNil)
  rw [trimStart, List.dropWhile_append, if_neg (by rwa [List.isEmpty_iff]), trimStart]

theorem trimEnd_append {back : List Char} (h : trim back ≠ []) (front : List Char) :
    trimEnd (front ++ back) = front ++ trimEnd back := by
  have hEnd : trimEnd back ≠ [] := fun hNil => h (trimEnd_eq_nil_iff.mp hNil)
  induction front with
  | nil => rfl
  | cons c front ih =>
    rw [List.cons_append, trimEnd_cons_of_ne_nil, ih, List.cons_append]
    rw [ih]
    exact List.append_ne_nil_of_right_ne_nil front hEnd

theorem trim_trimStart (text : List Char) : trim (trimStart text) = trim text := by
  rw [trim, trimStart_trimStart, trim]

theorem trim_trimEnd (text : List Char) : trim (trimEnd text) = trim text := by
  rw [trim, trimStart_trimEnd, trim, trimEnd_eq, trimEnd_eq, List.rdropWhile_idempotent]

end PresetCompiler.Text
