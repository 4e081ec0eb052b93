import PresetCompiler.Filter.PortSet
import PresetCompiler.Proofs.Text.Lines

/-! The texts that a port set is read from. An entry is a numeral, a range of two numerals, or `*`,
with blanks allowed at the ends of each; what is none of these counts for nothing. Reading takes one
plus sign in front of a numeral, which the grammar of port sets does not have. -/

namespace PresetCompiler

open Text

/-! ### Numerals -/

/-- ASCII digits, at least one, whose value is a port. -/
structure IsNumeral (text : List Char) (port : Nat) : Prop where
  ne_nil : text ≠ []
  digit : ∀ c ∈ text, c.isDigit = true
  value : Nat.ofDigitChars 10 text 0 = port
  inRange : port ≤ maxPort

/-- A numeral with at most one plus sign in front of it. -/
inductive IsSignedNumeral : List Char → Nat → Prop
  | plain {text : List Char} {port : Nat} (numeral : IsNumeral text port) :
      IsSignedNumeral text port
  | plus {text : List Char} {port : Nat} (numeral : IsNumeral text port) :
      IsSignedNumeral ('+' :: text) port

theorem isNumeral_iff {text : List Char} {port : Nat} :
    IsNumeral text port ↔ digits? text = some port ∧ port ≤ maxPort := by
  have hDigits : digits? text =
      if text ≠ [] ∧ text.all Char.isDigit = true then some (Nat.ofDigitChars 10 text 0)
      else none := rfl
  rw [hDigits]
  constructor
  · rintro ⟨hNil, hDigit, rfl, hRange⟩
    rw [if_pos ⟨hNil, List.all_eq_true.mpr hDigit⟩]
    exact ⟨rfl, hRange⟩
  · rintro ⟨hSome, hRange⟩
    split at hSome
    · rename_i h
      exact ⟨h.1, List.all_eq_true.mp h.2, Option.some.inj hSome, hRange⟩
    · contradiction

/-- A character that is no digit and no plus sign stands in no numeral. -/
theorem IsSignedNumeral.not_mem {text : List Char} {port : Nat} (h : IsSignedNumeral text port)
    {c : Char} (hDigit : c.isDigit = false) (hPlus : c ≠ '+') : c ∉ text := by
  have key {text : List Char} {port : Nat} (h : IsNumeral text port) : c ∉ text := by
    intro hc
    have := h.digit c hc
    rw [hDigit] at this
    contradiction
  cases h with
  | plain numeral => exact key numeral
  | plus numeral => simp [hPlus, key numeral]

theorem IsSignedNumeral.isNumeral {text : List Char} {port : Nat} (h : IsSignedNumeral text port)
    (hPlus : '+' ∉ text) : IsNumeral text port := by
  cases h with
  | plain numeral => exact numeral
  | plus => exact absurd List.mem_cons_self hPlus

theorem port?_eq_some_iff {text : List Char} {port : Nat} :
    port? text = some port ↔ IsSignedNumeral text port := by
  have hPort (digits : List Char) :
      (digits? digits).filter (· ≤ maxPort) = some port ↔ IsNumeral digits port := by
    rw [Option.filter_eq_some_iff, isNumeral_iff, decide_eq_true_iff]
  unfold port?
  split
  · rename_i digits
    rw [hPort]
    constructor
    · exact IsSignedNumeral.plus
    · rintro (h | h)
      · exact absurd (h.digit '+' List.mem_cons_self) (by decide)
      · exact h
  · rename_i hPlus
    rw [hPort]
    constructor
    · exact IsSignedNumeral.plain
    · rintro (h | h)
      · exact h
      · exact absurd rfl (hPlus _)

/-! ### Entries -/

namespace PortEntry

/-- The trimmed texts that say an entry, given what counts as a numeral. -/
inductive IsWritten (numeral : List Char → Nat → Prop) : PortEntry → List Char → Prop
  | any : IsWritten numeral .any ['*']
  | single {text : List Char} {port : Nat} (h : numeral text port) :
      IsWritten numeral (.single port) text
  | range {before after : List Char} {first last : Nat} (hFirst : numeral (trim before) first)
      (hLast : numeral (trim after) last) :
      IsWritten numeral (.range first last) (before ++ '-' :: after)

theorem read?_any {text : List Char} (h : trim text = ['*']) : read? text = some .any := by
  simp only [read?, h, if_pos]

theorem read?_single {text : List Char} {port : Nat} (h : IsSignedNumeral (trim text) port) :
    read? text = some (.single port) := by
  have hStar : trim text ≠ ['*'] := by
    intro hStar
    exact h.not_mem (c := '*') (by decide) (by decide) (hStar ▸ List.mem_cons_self)
  have hSplit : splitOnce '-' (trim text) = none :=
    splitOnce_eq_none_iff.mpr (h.not_mem (by decide) (by decide))
  simp only [read?, if_neg hStar, hSplit, port?_eq_some_iff.mpr h, Option.map_some]

theorem read?_range {text before after : List Char} {first last : Nat}
    (h : trim text = before ++ '-' :: after) (hFirst : IsSignedNumeral (trim before) first)
    (hLast : IsSignedNumeral (trim after) last) : read? text = some (.range first last) := by
  have hStar : trim text ≠ ['*'] := by
    intro hStar
    have hMem : '-' ∈ trim text := h ▸ List.mem_append_right before List.mem_cons_self
    rw [hStar] at hMem
    simp at hMem
  -- The text is cut at its first dash, which is this one because a numeral has none.
  have hBefore : '-' ∉ before := by
    rw [← mem_trim (by decide)]
    exact hFirst.not_mem (by decide) (by decide)
  have hSplit : splitOnce '-' (trim text) = some (before, after) :=
    splitOnce_eq_some_iff.mpr ⟨h, hBefore⟩
  simp only [read?, if_neg hStar, hSplit, port?_eq_some_iff.mpr hFirst,
    port?_eq_some_iff.mpr hLast]

theorem isWritten_of_read? {text : List Char} {entry : PortEntry} (h : read? text = some entry) :
    IsWritten IsSignedNumeral entry (trim text) := by
  simp only [read?] at h
  split at h
  · rename_i hStar
    rw [hStar, ← Option.some.inj h]
    exact .any
  · split at h
    · rename_i before after hSplit
      split at h
      · rename_i first last hFirst hLast
        rw [(splitOnce_eq_some_iff.mp hSplit).1, ← Option.some.inj h]
        exact .range (port?_eq_some_iff.mp hFirst) (port?_eq_some_iff.mp hLast)
      · contradiction
    · obtain ⟨port, hPort, rfl⟩ := Option.map_eq_some_iff.mp h
      exact .single (port?_eq_some_iff.mp hPort)

/-- Reading accepts exactly the written entries, with signs allowed. -/
theorem read?_eq_some_iff {text : List Char} {entry : PortEntry} :
    read? text = some entry ↔ IsWritten IsSignedNumeral entry (trim text) := by
  constructor
  · exact isWritten_of_read?
  · intro h
    generalize hText : trim text = written at h
    cases h with
    | any => exact read?_any hText
    | single h => exact read?_single (hText ▸ h)
    | range hFirst hLast => exact read?_range hText hFirst hLast

theorem IsWritten.mono {numeral other : List Char → Nat → Prop} {entry : PortEntry}
    {text : List Char} (h : IsWritten numeral entry text)
    (hMono : ∀ part ⊆ text, ∀ port, numeral part port → other part port) :
    IsWritten other entry text := by
  cases h with
  | any => exact .any
  | single h => exact .single (hMono _ (List.Subset.refl _) _ h)
  | @range before after first last hFirst hLast =>
    refine .range (hMono _ ?_ _ hFirst) (hMono _ ?_ _ hLast)
    · exact List.Subset.trans (strip_sublist isBlank before).subset (List.subset_append_left _ _)
    · refine List.Subset.trans (strip_sublist isBlank after).subset ?_
      exact List.Subset.trans (List.subset_cons_self '-' after) (List.subset_append_right _ _)

/-- Without a plus sign, an entry is written as the grammar has it. -/
theorem isWritten_iff_of_not_mem {entry : PortEntry} {text : List Char} (h : '+' ∉ text) :
    IsWritten IsSignedNumeral entry text ↔ IsWritten IsNumeral entry text := by
  constructor
  · intro hWritten
    refine hWritten.mono fun part hPart port hPort => ?_
    exact hPort.isNumeral fun hPlus => h (hPart hPlus)
  · intro hWritten
    exact hWritten.mono fun _ _ _ => IsSignedNumeral.plain

theorem covers_true_iff {port : Nat} {entry : PortEntry} :
    covers true port entry = true ↔ covers false port entry = true ∨ entry = .any := by
  cases entry <;> simp [covers]

end PortEntry

/-! ### Port sets -/

namespace PortSet

open PortEntry

/-- The entries of a port set as they are written, trimmed. -/
def written (spec : String) : List (List Char) :=
  (pieces (· == ',') spec.toList).map trim

/-- A written entry is a numeral for a port or a range around it. -/
def Lists (numeral : List Char → Nat → Prop) (text : List Char) (port : Nat) : Prop :=
  numeral text port ∨ ∃ before after first last, text = before ++ '-' :: after ∧
    numeral (trim before) first ∧ numeral (trim after) last ∧ first ≤ port ∧ port ≤ last

theorem lists_iff {numeral : List Char → Nat → Prop} {text : List Char} {port : Nat} :
    Lists numeral text port ↔
      ∃ entry, IsWritten numeral entry text ∧ PortEntry.covers false port entry = true := by
  constructor
  · rintro (h | ⟨before, after, first, last, rfl, hFirst, hLast, hLower, hUpper⟩)
    · exact ⟨_, .single h, by simp [PortEntry.covers]⟩
    · exact ⟨_, .range hFirst hLast, by simp [PortEntry.covers, hLower, hUpper]⟩
  · rintro ⟨entry, h, hCovers⟩
    cases h with
    | any => simp [PortEntry.covers] at hCovers
    | @single _ listed h =>
      obtain rfl : listed = port := by simpa [PortEntry.covers] using hCovers
      exact .inl h
    | range hFirst hLast =>
      obtain ⟨hLower, hUpper⟩ : _ ∧ _ := by simpa [PortEntry.covers] using hCovers
      exact .inr ⟨_, _, _, _, rfl, hFirst, hLast, hLower, hUpper⟩

theorem mem_entries_parse {spec : String} {entry : PortEntry} :
    entry ∈ (parse spec).entries ↔ ∃ text ∈ written spec, IsWritten IsSignedNumeral entry text := by
  simp only [parse, written, List.mem_filterMap, read?_eq_some_iff, List.mem_map]
  constructor
  · rintro ⟨text, hText, h⟩
    exact ⟨trim text, ⟨text, hText, rfl⟩, h⟩
  · rintro ⟨-, ⟨text, hText, rfl⟩, h⟩
    exact ⟨text, hText, h⟩

theorem covers_iff {ports : PortSet} {wildcard : Bool} {port : Nat} :
    ports.covers wildcard port = true ↔
      ∃ entry ∈ ports.entries, PortEntry.covers wildcard port entry = true := by
  rw [covers, List.any_eq_true]

theorem covers_parse_false_iff {spec : String} {port : Nat} :
    (parse spec).covers false port = true ↔
      ∃ text ∈ written spec, Lists IsSignedNumeral text port := by
  simp only [covers_iff, mem_entries_parse, lists_iff]
  constructor
  · rintro ⟨entry, ⟨text, hText, hWritten⟩, hCovers⟩
    exact ⟨text, hText, entry, hWritten, hCovers⟩
  · rintro ⟨text, hText, entry, hWritten, hCovers⟩
    exact ⟨entry, ⟨text, hText, hWritten⟩, hCovers⟩

theorem any_mem_entries_parse {spec : String} :
    .any ∈ (parse spec).entries ↔ ['*'] ∈ written spec := by
  rw [mem_entries_parse]
  constructor
  · rintro ⟨text, hText, h⟩
    cases h
    exact hText
  · intro h
    exact ⟨_, h, .any⟩

theorem covers_parse_true_iff {spec : String} {port : Nat} :
    (parse spec).covers true port = true ↔
      (parse spec).covers false port = true ∨ ['*'] ∈ written spec := by
  simp only [covers_iff, covers_true_iff, ← any_mem_entries_parse]
  constructor
  · rintro ⟨entry, hMem, hCovers | rfl⟩
    · exact .inl ⟨entry, hMem, hCovers⟩
    · exact .inr hMem
  · rintro (⟨entry, hMem, hCovers⟩ | hMem)
    · exact ⟨entry, hMem, .inl hCovers⟩
    · exact ⟨.any, hMem, .inr rfl⟩

theorem not_mem_written {spec : String} {c : Char} (h : c ∉ spec.toList) {text : List Char}
    (hText : text ∈ written spec) : c ∉ text := by
  obtain ⟨piece, hPiece, rfl⟩ := List.mem_map.mp hText
  exact not_mem_trim fun hc => h (mem_of_mem_pieces hPiece hc)

theorem lists_iff_of_not_mem {text : List Char} (h : '+' ∉ text) (port : Nat) :
    Lists IsSignedNumeral text port ↔ Lists IsNumeral text port := by
  simp only [lists_iff, isWritten_iff_of_not_mem h]

theorem entries_parse_append (spec other : String) :
    (parse (spec ++ "," ++ other)).entries = (parse spec).entries ++ (parse other).entries := by
  have hText : (spec ++ "," ++ other).toList = spec.toList ++ ',' :: other.toList := by simp
  rw [parse, hText, pieces_append (by decide), List.filterMap_append]
  rfl

theorem entries_parse_of_not_isWritten {text : String} (hComma : ',' ∉ text.toList)
    (h : ∀ entry, ¬ IsWritten IsSignedNumeral entry (trim text.toList)) :
    (parse text).entries = [] := by
  have hNoComma : ∀ c ∈ text.toList, (c == ',') = false := by
    intro c hc
    simp only [beq_eq_false_iff_ne]
    rintro rfl
    exact hComma hc
  have hWritten : written text = [trim text.toList] := by
    rw [written, pieces_eq_singleton hNoComma]
    rfl
  refine List.eq_nil_iff_forall_not_mem.mpr fun entry hMem => ?_
  rw [mem_entries_parse, hWritten] at hMem
  obtain ⟨part, hPart, hEntry⟩ := hMem
  exact h entry (List.mem_singleton.mp hPart ▸ hEntry)

/-- A port set covers the ports that one of its entries lists, and with the wildcard all ports once
`*` is an entry. Entries are read one by one, and one that says nothing leaves the others as they
are. Only numerals with a plus sign are taken beyond the grammar. -/
theorem covers_parse_iff (spec : String) :
    (∀ port, (parse spec).covers false port = true ↔
      ∃ text ∈ written spec, Lists IsSignedNumeral text port) ∧
    (∀ port, (parse spec).covers true port = true ↔
      (parse spec).covers false port = true ∨ ['*'] ∈ written spec) ∧
    (∀ other, (parse (spec ++ "," ++ other)).entries =
      (parse spec).entries ++ (parse other).entries) ∧
    (',' ∉ spec.toList → (∀ entry, ¬ IsWritten IsSignedNumeral entry (trim spec.toList)) →
      (parse spec).entries = []) ∧
    ('+' ∉ spec.toList → ∀ port, (parse spec).covers false port = true ↔
      ∃ text ∈ written spec, Lists IsNumeral text port) := by
  refine ⟨fun _ => covers_parse_false_iff, fun _ => covers_parse_true_iff,
    entries_parse_append spec, entries_parse_of_not_isWritten, fun hPlus port => ?_⟩
  rw [covers_parse_false_iff]
  refine exists_congr fun text => and_congr_right fun hText => ?_
  exact lists_iff_of_not_mem (not_mem_written hPlus hText) port

/-- Blanks around a range and leading zeros. -/
theorem covers_parse_iff_spaced :
    '+' ∉ "80, 0400 - 500 ,1-x".toList ∧
      ∃ text ∈ written "80, 0400 - 500 ,1-x", Lists IsNumeral text 443 :=
  ⟨by decide, ((covers_parse_iff _).2.2.2.2 (by decide) 443).mp (by decide +kernel)⟩

/-- A numeral with a sign is no entry of the grammar and covers its port all the same. -/
theorem covers_parse_signed :
    (parse "+443").covers false 443 = true ∧
      ¬ ∃ text ∈ written "+443", Lists IsNumeral text 443 := by
  refine ⟨by decide +kernel, ?_⟩
  rintro ⟨text, hText, hLists⟩
  obtain rfl : text = "+443".toList := by
    rw [show written "+443" = ["+443".toList] by decide +kernel] at hText
    exact List.mem_singleton.mp hText
  rcases hLists with h | ⟨before, after, -, -, hSplit, -⟩
  · exact absurd (h.digit '+' (by decide)) (by decide)
  · have hDash : '-' ∈ "+443".toList := hSplit ▸ List.mem_append_right before List.mem_cons_self
    exact absurd hDash (by decide)

end PortSet

end PresetCompiler
