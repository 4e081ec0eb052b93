import Mathlib.Tactic.MkIffOfInductiveProp
import PresetCompiler.Proofs.Text.Words
import PresetCompiler.Text.LowerCase

/-! What lower-casing does to words. A capital sigma looks at its neighbours, but no further than to
the next space, so that words between spaces are lower-cased one by one (`lower_intercalate`). What
comes out is in lower case already (`lower_lower`), and it does not depend on the case of ASCII
letters (`lower_map_toLower`). -/

namespace PresetCompiler.Text

theorem toNat_ofNat_of_isValidChar {n : Nat} (h : n.isValidChar) : (Char.ofNat n).toNat = n := by
  rw [Char.ofNat, dif_pos h]
  rfl

/-! ### The table of small letters -/

namespace CaseRange

/-- Whether a code is that of a capital letter of the range. -/
def Holds (range : CaseRange) (n : Nat) : Prop :=
  range.first ≤ n ∧ n ≤ range.last ∧ (n - range.first) % range.step = 0

/-- The code of the first small letter. -/
def smallFirst (range : CaseRange) : Nat :=
  (range.first + range.shift).toNat

/-- The code of the last small letter. -/
def smallLast (range : CaseRange) : Nat :=
  range.smallFirst + (range.last - range.first)

/-- Whether the small letters of a range are all at even codes or all at odd ones. -/
def keepsParity (range : CaseRange) : Bool :=
  Nat.beq (range.step % 2) 0 || Nat.beq range.first range.last

/-- Whether the small letters of a range are seen to be no capital letters of another one: they lie
before it, behind it, or between its letters. -/
def avoids (range other : CaseRange) : Bool :=
  Nat.blt range.smallLast other.first || Nat.blt other.last range.smallFirst ||
    (range.keepsParity && Nat.beq (other.step % 2) 0 &&
      !Nat.beq (range.smallFirst % 2) (other.first % 2))

/-- Where the small letters of a range may lie: they are characters, none of them is blank, and none
is the one letter with a small form of two characters. -/
@[mk_iff] structure IsRegular (range : CaseRange) : Prop where
  isShifted : (range.smallFirst : Int) = range.first + range.shift
  isValid : range.smallLast < 0xD800 ∨ 0xDFFF < range.smallFirst ∧ range.smallLast < 0x110000
  noDouble : range.smallLast < 0x130 ∨ 0x130 < range.smallFirst
  noBlank : ∀ gap ∈ [(0, 0x20), (0x85, 0x85), (0xA0, 0xA0), (0x1680, 0x1680), (0x2000, 0x205F),
    (0x3000, 0x3000)], range.smallLast < gap.1 ∨ gap.2 < range.smallFirst

instance : DecidablePred IsRegular := fun range => decidable_of_iff' _ (isRegular_iff range)

theorem isRegular_of_mem : ∀ range ∈ caseRanges, range.IsRegular := by
  decide +kernel

theorem avoids_of_mem : ∀ range ∈ caseRanges, ∀ other ∈ caseRanges, range.avoids other = true := by
  have h : (caseRanges.all fun range => caseRanges.all range.avoids) = true := by decide +kernel
  simpa only [List.all_eq_true] using h

theorem apply?_eq_some_iff {range : CaseRange} {n : Nat} {c : Char} :
    range.apply? n = some c ↔ range.Holds n ∧ Char.ofNat (n + range.shift).toNat = c := by
  unfold CaseRange.apply?
  split
  · rename_i h
    simp [show range.Holds n from h]
  · rename_i h
    simp [show ¬range.Holds n from h]

theorem apply?_eq_none_iff {range : CaseRange} {n : Nat} :
    range.apply? n = none ↔ ¬range.Holds n := by
  simp [Holds, CaseRange.apply?]

section Small

variable {range : CaseRange} {n : Nat} (hRange : range ∈ caseRanges) (h : range.Holds n)
include hRange h

theorem small_eq : (n + range.shift).toNat = range.smallFirst + (n - range.first) := by
  have hShift := (isRegular_of_mem range hRange).isShifted
  have hFirst := h.1
  omega

theorem small_le : (n + range.shift).toNat ≤ range.smallLast := by
  rw [small_eq hRange h, smallLast]
  have hLast := h.2.1
  omega

theorem toNat_small : (Char.ofNat (n + range.shift).toNat).toNat = (n + range.shift).toNat := by
  have hLast := small_le hRange h
  have hFirst := small_eq hRange h
  refine toNat_ofNat_of_isValidChar ?_
  rcases (isRegular_of_mem range hRange).isValid with hLow | hHigh
  · exact .inl (by omega)
  · exact .inr (by omega)

/-- A small letter of one range is no capital letter of any. -/
theorem not_holds_small {other : CaseRange} (hOther : other ∈ caseRanges) :
    ¬other.Holds (n + range.shift).toNat := by
  rintro ⟨hFirst, hLast, hStep⟩
  have hSmall := small_eq hRange h
  have hSmallLast := small_le hRange h
  have hAvoids := avoids_of_mem range hRange other hOther
  simp only [avoids, keepsParity, Bool.or_eq_true, Bool.and_eq_true, Bool.not_eq_true',
    Bool.eq_false_iff, ne_eq, Nat.blt_eq, Nat.beq_eq] at hAvoids
  rcases hAvoids with (hBefore | hBehind) | ⟨⟨hParity, hOtherStep⟩, hOdd⟩
  · omega
  · omega
  · have hEven : (n - range.first) % 2 = 0 := by
      rcases hParity with hEven | hOne
      · exact Nat.mod_eq_zero_of_dvd
          (Nat.dvd_trans (Nat.dvd_of_mod_eq_zero hEven) (Nat.dvd_of_mod_eq_zero h.2.2))
      · have := h.1
        have := h.2.1
        omega
    have hOtherEven := Nat.mod_eq_zero_of_dvd
      (Nat.dvd_trans (Nat.dvd_of_mod_eq_zero hOtherStep) (Nat.dvd_of_mod_eq_zero hStep))
    omega

theorem isBlank_small : isBlank (Char.ofNat (n + range.shift).toNat) = false := by
  have hLast := small_le hRange h
  have hFirst := small_eq hRange h
  have hGaps := (isRegular_of_mem range hRange).noBlank
  simp only [List.mem_cons, List.not_mem_nil, or_false, forall_eq_or_imp, forall_eq] at hGaps
  simp only [isBlank, toNat_small hRange h, Bool.or_eq_false_iff, Bool.and_eq_false_iff,
    decide_eq_false_iff_not, beq_eq_false_iff_ne]
  omega

end Small

end CaseRange

/-- A character is its own small form, or its small form is the small letter of a range. -/
theorem lowerChar_cases {c d : Char} (h : d ∈ lowerChar c) :
    c.toNat = 0x130 ∨ d = c ∧ lowerChar c = [c] ∨
      ∃ range ∈ caseRanges, range.Holds c.toNat ∧
        d = Char.ofNat (c.toNat + range.shift).toNat := by
  by_cases hDouble : c.toNat = 0x130
  · exact .inl hDouble
  · right
    rw [lowerChar, if_neg hDouble] at h ⊢
    cases hFind : caseRanges.findSome? fun range => range.apply? c.toNat with
    | none =>
      rw [hFind, Option.getD_none, List.mem_singleton] at h
      exact .inl ⟨h, rfl⟩
    | some small =>
      rw [hFind, Option.getD_some, List.mem_singleton] at h
      obtain ⟨range, hRange, hApply⟩ := List.exists_of_findSome?_eq_some hFind
      obtain ⟨hHolds, rfl⟩ := CaseRange.apply?_eq_some_iff.mp hApply
      exact .inr ⟨range, hRange, hHolds, h⟩

/-- What a small form consists of is in lower case. -/
theorem lowerChar_of_mem {c d : Char} (h : d ∈ lowerChar c) : lowerChar d = [d] := by
  rcases lowerChar_cases h with hDouble | ⟨rfl, hSelf⟩ | ⟨range, hRange, hHolds, rfl⟩
  · rw [lowerChar, if_pos hDouble, List.mem_pair] at h
    rcases h with rfl | rfl
    · decide +kernel
    · decide +kernel
  · exact hSelf
  · have hNone : (caseRanges.findSome? fun other =>
        other.apply? (Char.ofNat (c.toNat + range.shift).toNat).toNat) = none := by
      refine List.findSome?_eq_none_iff.mpr fun other hOther => ?_
      rw [CaseRange.toNat_small hRange hHolds, CaseRange.apply?_eq_none_iff]
      exact CaseRange.not_holds_small hRange hHolds hOther
    have hSingle : (Char.ofNat (c.toNat + range.shift).toNat).toNat ≠ 0x130 := by
      have hNoDouble := (CaseRange.isRegular_of_mem range hRange).noDouble
      have hLast := CaseRange.small_le hRange hHolds
      have hFirst := CaseRange.small_eq hRange hHolds
      rw [CaseRange.toNat_small hRange hHolds]
      omega
    rw [lowerChar, if_neg hSingle, hNone, Option.getD_none]

theorem isBlank_of_mem_lowerChar {c d : Char} (hc : isBlank c = false) (h : d ∈ lowerChar c) :
    isBlank d = false := by
  rcases lowerChar_cases h with hDouble | ⟨rfl, -⟩ | ⟨range, hRange, hHolds, rfl⟩
  · rw [lowerChar, if_pos hDouble, List.mem_pair] at h
    rcases h with rfl | rfl <;> decide
  · exact hc
  · exact CaseRange.isBlank_small hRange hHolds

theorem lowerChar_ne_nil (c : Char) : lowerChar c ≠ [] := by
  rw [lowerChar]
  split <;> simp

/-! ### The context of a capital sigma -/

theorem lowerAfter_sigma (before rest : List Char) :
    lowerAfter before ('Σ' :: rest) =
      (if meetsCased before && !meetsCased rest then 'ς' else 'σ') ::
        lowerAfter ('Σ' :: before) rest := rfl

theorem lowerAfter_cons {c : Char} (h : c ≠ 'Σ') (before rest : List Char) :
    lowerAfter before (c :: rest) = lowerChar c ++ lowerAfter (c :: before) rest := by
  simp only [lowerAfter, if_neg h]

theorem meetsCased_append_space (text rest : List Char) :
    meetsCased (text ++ ' ' :: rest) = meetsCased text := by
  have hIgnorable : inRanges caseIgnorableRanges ' ' = false := by decide +kernel
  have hCased : inRanges casedRanges ' ' = false := by decide +kernel
  rw [meetsCased, meetsCased, List.dropWhile_append]
  cases hDrop : text.dropWhile (inRanges caseIgnorableRanges) with
  | nil => simp [hIgnorable, hCased]
  | cons c after => rfl

/-- What stands before a space does not matter to what follows it. -/
theorem lowerAfter_append_space (before earlier text : List Char) :
    lowerAfter (before ++ ' ' :: earlier) text = lowerAfter before text := by
  induction text generalizing before with
  | nil => rfl
  | cons c rest ih =>
    rw [lowerAfter, lowerAfter, meetsCased_append_space, ← List.cons_append, ih]

theorem lowerAfter_space (before text rest : List Char) :
    lowerAfter before (text ++ ' ' :: rest) = lowerAfter before text ++ ' ' :: lower rest := by
  induction text generalizing before with
  | nil =>
    have hSpace : lowerChar ' ' = [' '] := by decide +kernel
    rw [List.nil_append, lowerAfter_cons (by decide), hSpace, ← List.nil_append (' ' :: before),
      lowerAfter_append_space]
    rfl
  | cons c text ih =>
    rw [List.cons_append, lowerAfter, lowerAfter, meetsCased_append_space, ih, List.append_assoc]

/-- Words between spaces are lower-cased one by one. -/
theorem lower_intercalate (ws : List (List Char)) :
    lower (List.intercalate [' '] ws) = List.intercalate [' '] (ws.map lower) := by
  induction ws with
  | nil => rfl
  | cons word rest ih =>
    by_cases hRest : rest = []
    · simp [hRest]
    · rw [List.intercalate_cons_of_ne_nil hRest, List.append_assoc, List.singleton_append, lower,
        lowerAfter_space, ih, List.map_cons, List.intercalate_cons_of_ne_nil (by simpa using hRest),
        List.append_assoc, List.singleton_append, lower]

/-! ### What is in lower case -/

theorem exists_of_mem_lowerAfter {before text : List Char} {d : Char}
    (h : d ∈ lowerAfter before text) : d = 'ς' ∨ ∃ c ∈ text, d ∈ lowerChar c := by
  induction text generalizing before with
  | nil => contradiction
  | cons c rest ih =>
    have hLater {before : List Char} (h : d ∈ lowerAfter before rest) :
        d = 'ς' ∨ ∃ c' ∈ c :: rest, d ∈ lowerChar c' :=
      (ih h).imp_right fun ⟨c', hc', hd⟩ => ⟨c', List.mem_cons_of_mem c hc', hd⟩
    by_cases hSigma : c = 'Σ'
    · subst hSigma
      rw [lowerAfter_sigma, List.mem_cons] at h
      rcases h with hHere | hRest
      · split at hHere
        · exact .inl hHere
        · have hSmall : 'σ' ∈ lowerChar 'Σ' := by decide +kernel
          exact .inr ⟨'Σ', List.mem_cons_self, hHere ▸ hSmall⟩
      · exact hLater hRest
    · rw [lowerAfter_cons hSigma, List.mem_append] at h
      rcases h with hHere | hRest
      · exact .inr ⟨c, List.mem_cons_self, hHere⟩
      · exact hLater hRest

theorem lowerChar_of_mem_lower {text : List Char} {d : Char} (h : d ∈ lower text) :
    lowerChar d = [d] := by
  rcases exists_of_mem_lowerAfter h with rfl | ⟨c, -, hd⟩
  · decide +kernel
  · exact lowerChar_of_mem hd

theorem noBlank_lower {text : List Char} (h : ∀ c ∈ text, isBlank c = false) :
    ∀ d ∈ lower text, isBlank d = false := by
  intro d hd
  rcases exists_of_mem_lowerAfter hd with rfl | ⟨c, hc, hd⟩
  · decide
  · exact isBlank_of_mem_lowerChar (h c hc) hd

theorem lowerAfter_eq_self {text : List Char} (h : ∀ c ∈ text, lowerChar c = [c])
    (before : List Char) : lowerAfter before text = text := by
  induction text generalizing before with
  | nil => rfl
  | cons c rest ih =>
    have hSigma : c ≠ 'Σ' := by
      rintro rfl
      exact absurd (h 'Σ' List.mem_cons_self) (by decide +kernel)
    rw [lowerAfter_cons hSigma, h c List.mem_cons_self,
      ih fun d hd => h d (List.mem_cons_of_mem c hd)]
    rfl

@[simp] theorem lower_lower (text : List Char) : lower (lower text) = lower text :=
  lowerAfter_eq_self (fun _ => lowerChar_of_mem_lower) []

theorem lower_eq_nil_iff {text : List Char} : lower text = [] ↔ text = [] := by
  cases text with
  | nil => exact Iff.rfl
  | cons c rest =>
    have hHere : lower (c :: rest) ≠ [] := by
      by_cases hSigma : c = 'Σ'
      · rw [hSigma, lower, lowerAfter_sigma]
        exact List.cons_ne_nil _ _
      · rw [lower, lowerAfter_cons hSigma]
        exact List.append_ne_nil_of_left_ne_nil (lowerChar_ne_nil c) _
    simp [hHere]

/-! ### The case of ASCII letters -/

theorem inRanges_of_within {ranges : List (Nat × Nat)} {low high : Nat} {c : Char}
    (h : (ranges.any fun range => range.1 ≤ low && high ≤ range.2) = true) (hLow : low ≤ c.toNat)
    (hHigh : c.toNat ≤ high) : inRanges ranges c = true := by
  simp only [List.any_eq_true, Bool.and_eq_true, decide_eq_true_eq] at h
  obtain ⟨range, hMem, hFirst, hLast⟩ := h
  simp only [inRanges, List.any_eq_true, Bool.and_eq_true, decide_eq_true_eq]
  exact ⟨range, hMem, by omega⟩

theorem inRanges_of_between {ranges : List (Nat × Nat)} {low high : Nat} {c : Char}
    (h : (ranges.all fun range => range.2 < low || high < range.1) = true) (hLow : low ≤ c.toNat)
    (hHigh : c.toNat ≤ high) : inRanges ranges c = false := by
  simp only [List.all_eq_true, Bool.or_eq_true, decide_eq_true_eq] at h
  simp only [inRanges, List.any_eq_false, Bool.and_eq_true, decide_eq_true_eq]
  intro range hMem
  have := h range hMem
  omega

/-- Only the capital letters of ASCII have a small letter in ASCII, 32 places behind. -/
theorem toLower_cases (c : Char) :
    c.toLower = c ∨ (0x41 ≤ c.toNat ∧ c.toNat ≤ 0x5A) ∧
      0x61 ≤ c.toLower.toNat ∧ c.toLower.toNat ≤ 0x7A := by
  by_cases hUpper : 0x41 ≤ c.toNat ∧ c.toNat ≤ 0x5A
  · have key : ∀ n : Fin 26, 0x61 ≤ (Char.ofNat (0x41 + n)).toLower.toNat ∧
        (Char.ofNat (0x41 + n)).toLower.toNat ≤ 0x7A := by decide
    have hCode := key ⟨c.toNat - 0x41, by omega⟩
    rw [Nat.add_sub_cancel' hUpper.1, Char.ofNat_toNat] at hCode
    exact .inr ⟨hUpper, hCode⟩
  · exact .inl (dif_neg fun hRange => hUpper hRange)

/-- A test that no letter of ASCII passes, or every one, does not depend on the case. -/
theorem apply_toLower {test : Char → α} (answer : α)
    (hUpper : ∀ c : Char, 0x41 ≤ c.toNat → c.toNat ≤ 0x5A → test c = answer)
    (hLower : ∀ c : Char, 0x61 ≤ c.toNat → c.toNat ≤ 0x7A → test c = answer) (c : Char) :
    test c.toLower = test c := by
  rcases toLower_cases c with hSame | ⟨⟨hFirst, hLast⟩, hFirst', hLast'⟩
  · rw [hSame]
  · rw [hUpper c hFirst hLast, hLower c.toLower hFirst' hLast']

theorem isBlank_toLower (c : Char) : isBlank c.toLower = isBlank c := by
  refine apply_toLower false (fun c hFirst hLast => ?_) (fun c hFirst hLast => ?_) c
  · simp [isBlank]
    omega
  · simp [isBlank]
    omega

theorem isCased_toLower (c : Char) : inRanges casedRanges c.toLower = inRanges casedRanges c :=
  apply_toLower true (fun _ => inRanges_of_within (by decide +kernel))
    (fun _ => inRanges_of_within (by decide +kernel)) c

theorem isCaseIgnorable_toLower (c : Char) :
    inRanges caseIgnorableRanges c.toLower = inRanges caseIgnorableRanges c :=
  apply_toLower false (fun _ => inRanges_of_between (by decide +kernel))
    (fun _ => inRanges_of_between (by decide +kernel)) c

theorem toLower_eq_sigma_iff (c : Char) : c.toLower = 'Σ' ↔ c = 'Σ' := by
  have hNot {low high : Nat} (h : high < 'Σ'.toNat) (c : Char) (_ : low ≤ c.toNat)
      (hLast : c.toNat ≤ high) : (c = 'Σ') = False := by
    refine eq_false fun hSame => ?_
    rw [hSame] at hLast
    omega
  have hSame : (fun c : Char => c = 'Σ') c.toLower = (fun c : Char => c = 'Σ') c :=
    apply_toLower False (hNot (by decide)) (hNot (by decide)) c
  exact Iff.of_eq hSame

theorem lowerChar_toLower (c : Char) : lowerChar c.toLower = lowerChar c := by
  rcases toLower_cases c with hSame | ⟨⟨-, hLast⟩, hFirst', hLast'⟩
  · rw [hSame]
  · have hTwice : c.toLower.toLower = c.toLower :=
      (toLower_cases c.toLower).resolve_right fun hUpper => by omega
    rw [lowerChar_ascii (by omega), lowerChar_ascii (by omega), hTwice]

theorem meetsCased_map_toLower (text : List Char) :
    meetsCased (text.map Char.toLower) = meetsCased text := by
  rw [meetsCased, meetsCased, List.dropWhile_map,
    show inRanges caseIgnorableRanges ∘ Char.toLower = _ from funext isCaseIgnorable_toLower]
  cases text.dropWhile (inRanges caseIgnorableRanges) with
  | nil => rfl
  | cons c rest => exact isCased_toLower c

theorem lowerAfter_map_toLower (before text : List Char) :
    lowerAfter (before.map Char.toLower) (text.map Char.toLower) = lowerAfter before text := by
  induction text generalizing before with
  | nil => rfl
  | cons c rest ih =>
    simp only [List.map_cons, lowerAfter, toLower_eq_sigma_iff, meetsCased_map_toLower,
      lowerChar_toLower]
    rw [← List.map_cons, ih]

theorem lower_map_toLower (text : List Char) : lower (text.map Char.toLower) = lower text :=
  lowerAfter_map_toLower [] text

end PresetCompiler.Text
