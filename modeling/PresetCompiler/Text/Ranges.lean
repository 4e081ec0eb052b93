/-! Sets of characters given by ranges of codes. -/

namespace PresetCompiler.Text

/-- Whether a character lies in one of the ranges, which have both their ends. -/
def inRanges (ranges : List (Nat × Nat)) (c : Char) : Bool :=
  ranges.any fun (first, last) => first ≤ c.toNat && c.toNat ≤ last

/-- A character below all ranges lies in none. -/
theorem inRanges_eq_false_of_lt {ranges : List (Nat × Nat)} {bound : Nat} {c : Char}
    (h : (ranges.all fun range => bound ≤ range.1) = true) (hc : c.toNat < bound) :
    inRanges ranges c = false := by
  simp only [List.all_eq_true, decide_eq_true_eq] at h
  simp only [inRanges, List.any_eq_false, Bool.and_eq_true, decide_eq_true_eq]
  intro range hRange
  have := h range hRange
  omega

end PresetCompiler.Text
