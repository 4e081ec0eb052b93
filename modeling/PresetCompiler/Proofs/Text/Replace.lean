import PresetCompiler.Text.Find

/-! Replacing a text by one that has no part of it. The result does not hold the old text any more,
so that replacing once is enough. -/

namespace PresetCompiler.Text

@[simp] theorem startsWith_nil (text : List Char) : startsWith [] text = true := rfl

@[simp] theorem startsWith_cons_nil (c : Char) (lead : List Char) :
    startsWith (c :: lead) [] = false := rfl

theorem startsWith_cons_cons (c d : Char) (lead text : List Char) :
    startsWith (c :: lead) (d :: text) = (decide (c = d) && startsWith lead text) := by
  by_cases h : c = d <;> simp [startsWith, after?, h]

/-- What stands in the result stood in the text or in the new part. -/
theorem mem_of_mem_replaceFrom {old new : List Char} {c : Char} (skip : Nat) (text : List Char)
    (h : c ∈ replaceFrom old new skip text) : c ∈ new ∨ c ∈ text := by
  induction text generalizing skip with
  | nil => simp [replaceFrom] at h
  | cons d text ih =>
    have hRest (skip : Nat) (h : c ∈ replaceFrom old new skip text) : c ∈ new ∨ c ∈ d :: text :=
      (ih skip h).imp_right (List.mem_cons_of_mem d)
    cases skip with
    | succ skip => exact hRest skip h
    | zero =>
      rw [replaceFrom] at h
      split at h
      · exact (List.mem_append.mp h).elim .inl (hRest _)
      · exact (List.mem_cons.mp h).elim (fun hSame => .inr (hSame ▸ List.mem_cons_self)) (hRest 0)

section Replace

variable {old new : List Char} {first : Char} {after : List Char}

/-- A lead without the first character of the new text stands in the result only where it stood
before, because an occurrence that was replaced begins with this character. -/
theorem startsWith_of_replaceFrom (hNew : new = first :: after) {lead : List Char}
    (hLead : first ∉ lead) {text : List Char}
    (h : startsWith lead (replaceFrom old new 0 text) = true) : startsWith lead text = true := by
  induction lead generalizing text with
  | nil => rfl
  | cons c lead ih =>
    have hFirst : c ≠ first := fun hSame => hLead (hSame ▸ List.mem_cons_self)
    have hRest : first ∉ lead := fun hMem => hLead (List.mem_cons_of_mem c hMem)
    cases text with
    | nil => exact h
    | cons d text =>
      rw [replaceFrom] at h
      split at h
      · rw [hNew, List.cons_append, startsWith_cons_cons] at h
        simp [hFirst] at h
      · rw [startsWith_cons_cons, Bool.and_eq_true] at h ⊢
        exact ⟨h.1, ih hRest h.2⟩

/-- Replacing leaves no occurrence behind. The new text must not complete one with what follows it,
and its first character must not stand in the old text. -/
theorem occursIn_replaceFrom (hOld : old ≠ []) (hNew : new = first :: after) (hFirst : first ∉ old)
    (hAfter : ∀ text, occursIn old (new ++ text) = occursIn old text) (skip : Nat)
    (text : List Char) : occursIn old (replaceFrom old new skip text) = false := by
  induction text generalizing skip with
  | nil => simpa [replaceFrom, occursIn] using hOld
  | cons c text ih =>
    cases skip with
    | succ skip => exact ih skip
    | zero =>
      by_cases hStart : startsWith old (c :: text) = true
      · rw [replaceFrom, if_pos hStart, hAfter]
        exact ih _
      · have hKept : replaceFrom old new 0 (c :: text) = c :: replaceFrom old new 0 text := by
          rw [replaceFrom, if_neg hStart]
        -- An occurrence that begins here would have been one before.
        have hHere : startsWith old (c :: replaceFrom old new 0 text) = false := by
          rw [← hKept]
          exact Bool.eq_false_iff.mpr fun h => hStart (startsWith_of_replaceFrom hNew hFirst h)
        rw [hKept, occursIn, hHere, ih, Bool.or_false]

end Replace

end PresetCompiler.Text
