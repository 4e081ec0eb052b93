import PresetCompiler.Text.Ranges
import PresetCompiler.Text.VisibleTable

/-! Characters that can be seen by themselves. -/

namespace PresetCompiler.Text

/-- Whether a character leaves a mark of its own, or is a space. -/
def isVisible (c : Char) : Bool :=
  !inRanges unmarkedRanges c && !inRanges extendingRanges c

/-- The visible ASCII characters are those from the space to the tilde. -/
theorem isVisible_ascii {c : Char} (h : c.toNat < 128) :
    isVisible c = decide (0x20 ≤ c.toNat ∧ c.toNat < 0x7F) := by
  have hUnmarked : inRanges (unmarkedRanges.drop 2) c = false :=
    inRanges_eq_false_of_lt (by decide +kernel) h
  have hExtending : inRanges extendingRanges c = false :=
    inRanges_eq_false_of_lt (by decide +kernel) h
  have hSplit : inRanges unmarkedRanges c =
      (inRanges [(0x0, 0x1F), (0x7F, 0xA0)] c || inRanges (unmarkedRanges.drop 2) c) := by
    rw [inRanges, inRanges, inRanges, ← List.any_append]
    rfl
  rw [isVisible, hSplit, hUnmarked, hExtending]
  simp only [inRanges, List.any_cons, List.any_nil, Bool.or_false, Bool.not_false, Bool.and_true,
    Bool.not_or, Bool.not_and]
  grind

end PresetCompiler.Text
