import Mathlib.Tactic.SplitIfs
import PresetCompiler.Preset.Header
import PresetCompiler.Proofs.Text.Lines
import PresetCompiler.Proofs.Text.Words

/-! Directive lines. A directive is read exactly from the lines that state a value for its keyword,
no line is a directive for two of the keywords, and of several lines the last one counts. -/

namespace PresetCompiler

open Text

/-! ### One line -/

theorem isBlank_foldLetter (c : Char) : isBlank (foldLetter c) = isBlank c := by
  have hAscii : ∀ n : Fin 128, isBlank (Char.ofNat n.val).toLower = isBlank (Char.ofNat n.val) := by
    decide +kernel
  unfold foldLetter
  split_ifs with hLongS hKelvin
  · rw [hLongS]
    decide
  · rw [hKelvin]
    decide
  · by_cases h : c.toNat < 128
    · simpa using hAscii ⟨c.toNat, h⟩
    · -- Beyond ASCII no letter changes.
      have hSame : c.toLower = c := by
        unfold Char.toLower
        rw [dif_neg]
        rintro ⟨-, hUpper⟩
        have hUpper : c.toNat ≤ 90 := UInt32.le_iff_toNat_le.mp hUpper
        omega
      rw [hSame]

theorem afterKeyword?_eq_some_iff {keyword text rest : List Char} :
    afterKeyword? keyword text = some rest ↔
      ∃ key, text = key ++ rest ∧ key.map foldLetter = keyword.map foldLetter := by
  induction keyword generalizing text with
  | nil => simp [afterKeyword?, eq_comm]
  | cons k keyword ih =>
    cases text with
    | nil => simp [afterKeyword?]
    | cons c text =>
      unfold afterKeyword?
      constructor
      · intro h
        split at h
        · rename_i hFold
          obtain ⟨key, rfl, hKey⟩ := ih.mp h
          exact ⟨c :: key, rfl, by rw [List.map_cons, List.map_cons, hFold, hKey]⟩
        · contradiction
      · rintro ⟨key, hText, hKey⟩
        cases key with
        | nil => simp at hKey
        | cons d key =>
          obtain ⟨rfl, rfl⟩ := List.cons.inj hText
          obtain ⟨hFold, hKey⟩ := List.cons.inj hKey
          rw [if_pos hFold]
          exact ih.mpr ⟨key, rfl, hKey⟩

/-- The parts of a line from which a directive is read, one after the other. -/
theorem exists_of_directive? {keyword : String} {line value : List Char}
    (h : directive? keyword line = some value) :
    ∃ rest afterKey afterColon, line = commentMark :: rest ∧
      afterKeyword? keyword.toList (trimStart rest) = some afterKey ∧
      trimStart afterKey = ':' :: afterColon ∧ trim afterColon = value ∧ value ≠ [] := by
  unfold directive? at h
  split at h
  · contradiction
  rename_i c rest
  split at h
  case isFalse => contradiction
  rename_i hMark
  split at h
  · contradiction
  rename_i afterKey hKeyword
  split at h
  case h_2 => contradiction
  rename_i afterColon hColon
  split at h
  · contradiction
  rename_i hNil
  obtain rfl := Option.some.inj h
  exact ⟨rest, afterKey, afterColon, by rw [hMark], hKeyword, hColon, rfl, hNil⟩

/-- A line that states a value for a keyword: `#`, the keyword in any case, a colon and the value,
with blanks around them. -/
structure States (keyword : String) (line value : List Char) : Prop where
  ne_nil : value ≠ []
  spelling : ∃ gap key gap' rest, line = commentMark :: (gap ++ key ++ gap' ++ ':' :: rest) ∧
    (∀ c ∈ gap, isBlank c = true) ∧ key.map foldLetter = keyword.toList.map foldLetter ∧
    (∀ c ∈ gap', isBlank c = true) ∧ trim rest = value

theorem states_of_directive? {keyword : String} {line value : List Char}
    (h : directive? keyword line = some value) : States keyword line value := by
  obtain ⟨rest, afterKey, afterColon, rfl, hKeyword, hColon, hValue, hNil⟩ :=
    exists_of_directive? h
  obtain ⟨gap, hRest, hGap⟩ := exists_gap_append rest
  obtain ⟨gap', hAfter, hGap'⟩ := exists_gap_append afterKey
  obtain ⟨key, hText, hKey⟩ := afterKeyword?_eq_some_iff.mp hKeyword
  refine ⟨hNil, gap, key, gap', afterColon, ?_, hGap, hKey, hGap', hValue⟩
  rw [hColon] at hAfter
  rw [hRest, hText, hAfter, List.append_assoc, List.append_assoc]

theorem directive?_of_states {keyword : String}
    (hHead : keyword.toList.head?.map isBlank = some false) {line value : List Char}
    (h : States keyword line value) : directive? keyword line = some value := by
  obtain ⟨hNil, gap, key, gap', rest, rfl, hGap, hKey, hGap', rfl⟩ := h
  have hStart : trimStart (gap ++ key ++ gap' ++ ':' :: rest) = key ++ (gap' ++ ':' :: rest) := by
    rw [List.append_assoc, List.append_assoc, trimStart_gap_append hGap]
    obtain ⟨first, hFirst, hBlank⟩ := Option.map_eq_some_iff.mp hHead
    obtain ⟨letters, hKeyword⟩ := List.head?_eq_some_iff.mp hFirst
    rw [hKeyword] at hKey
    cases key with
    | nil => simp at hKey
    | cons c key =>
      have hFold := (List.cons.inj hKey).1
      rw [List.cons_append, trimStart_cons]
      rw [← isBlank_foldLetter, hFold, isBlank_foldLetter, hBlank]
  have hColon : trimStart (gap' ++ ':' :: rest) = ':' :: rest := by
    rw [trimStart_gap_append hGap', trimStart_cons (by decide)]
  rw [directive?, if_pos rfl, hStart, afterKeyword?_eq_some_iff.mpr ⟨key, rfl, hKey⟩]
  simp only [hColon, if_neg hNil]

theorem head?_of_directive? {keyword : String} (hHead : keyword.toList ≠ [])
    {line value : List Char} (h : directive? keyword line = some value) :
    (trimStart line.tail).head?.map foldLetter = keyword.toList.head?.map foldLetter := by
  obtain ⟨rest, afterKey, -, rfl, hKeyword, -⟩ := exists_of_directive? h
  obtain ⟨key, hText, hKey⟩ := afterKeyword?_eq_some_iff.mp hKeyword
  have hNil : key ≠ [] := by
    rintro rfl
    exact hHead (List.map_eq_nil_iff.mp hKey.symm)
  rw [List.tail_cons, hText, List.head?_append_of_ne_nil _ hNil, ← List.head?_map, hKey,
    List.head?_map]

/-- No line is a directive for two keywords that begin with different letters. -/
theorem directive?_eq_none {keyword other : String} (hHead : keyword.toList ≠ [])
    (hOther : other.toList ≠ [])
    (hLetter : keyword.toList.head?.map foldLetter ≠ other.toList.head?.map foldLetter)
    {line value : List Char} (h : directive? keyword line = some value) :
    directive? other line = none := by
  cases hSome : directive? other line with
  | none => rfl
  | some value' =>
    exact absurd ((head?_of_directive? hHead h).symm.trans (head?_of_directive? hOther hSome))
      hLetter
/-- The value of a directive is trimmed, not empty, and on one line. -/
theorem isContent_of_directive? {keyword : String} {line value : List Char}
    (h : directive? keyword line = some value) (hFeed : '\n' ∉ line) : IsContent value := by
  obtain ⟨hNil, gap, key, gap', rest, rfl, -, -, -, rfl⟩ := states_of_directive? h
  refine ⟨hNil, trim_trim rest, not_mem_trim fun hRest => hFeed ?_⟩
  exact List.mem_cons_of_mem _ (List.mem_append_right _ (List.mem_cons_of_mem _ hRest))

/-- A directive line in its plain spelling. -/
def directiveLine (keyword : String) (value : List Char) : List Char :=
  commentMark :: ' ' :: (keyword.toList ++ ':' :: ' ' :: value)

/-- A directive line in plain spelling states its value. -/
theorem directive?_self (keyword : String) {value : List Char}
    (hHead : keyword.toList.head?.map isBlank = some false) (hValue : IsContent value) :
    directive? keyword (directiveLine keyword value) = some value := by
  refine directive?_of_states hHead ⟨hValue.ne_nil, [' '], keyword.toList, [], ' ' :: value, ?_⟩
  refine ⟨by simp [directiveLine], List.forall_mem_singleton.mpr (by decide), rfl, by simp, ?_⟩
  rw [trim_cons_blank (by decide), hValue.trim_eq]

theorem directive?_blank {keyword : String} {line : List Char} (h : trim line = []) :
    directive? keyword (trim line) = none := by
  rw [h, directive?]

/-! ### Several lines -/

/-- The value of the last line that is a directive with a keyword. -/
def lastDirective? (keyword : String) (region : List (List Char)) : Option String :=
  (region.filterMap fun line => directive? keyword (trim line)).getLast?.map String.ofList

theorem lastDirective?_concat (keyword : String) (region : List (List Char)) (line : List Char) :
    lastDirective? keyword (region ++ [line]) =
      ((directive? keyword (trim line)).map String.ofList).or (lastDirective? keyword region) := by
  unfold lastDirective?
  cases h : directive? keyword (trim line) with
  | none => simp [h]
  | some value => simp [h]

theorem lastDirective?_concat_of_blank (keyword : String) (region : List (List Char))
    {line : List Char} (h : trim line = []) :
    lastDirective? keyword (region ++ [line]) = lastDirective? keyword region := by
  rw [lastDirective?_concat, directive?_blank h]
  rfl

/-- The value that the last directive states stands in one of the lines. -/
theorem isContent_of_lastDirective? {keyword : String} {region : List (List Char)} {value : String}
    (h : lastDirective? keyword region = some value) (hFeed : ∀ line ∈ region, '\n' ∉ line) :
    IsContent value.toList := by
  obtain ⟨chars, hLast, rfl⟩ := Option.map_eq_some_iff.mp h
  obtain ⟨line, hLine, hDirective⟩ := List.mem_filterMap.mp (List.mem_of_getLast? hLast)
  rw [String.toList_ofList]
  exact isContent_of_directive? hDirective (not_mem_trim (hFeed line hLine))

end PresetCompiler
