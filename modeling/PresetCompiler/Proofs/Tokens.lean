import Mathlib.Data.List.Flatten
import PresetCompiler.Proofs.Preset.Content
import PresetCompiler.Tokens

/-! The tokens of argument lines. A preset launches the tokens of the lines that it is written
with, and the separators among its tokens tell how many blocks there are. -/

namespace PresetCompiler

open Text

/-- The tokens of lines, comments left out. -/
def lineTokens (ls : List (List Char)) : List String :=
  (ls.filter fun line => !isComment line).flatMap (tokensFrom none false)

theorem tokenize_eq (text : String) : tokenize text = lineTokens (contentLines text.toList) := rfl

theorem lineTokens_append (front back : List (List Char)) :
    lineTokens (front ++ back) = lineTokens front ++ lineTokens back := by
  rw [lineTokens, List.filter_append, List.flatMap_append]
  rfl

@[simp] theorem lineTokens_separator : lineTokens [separator.toList] = [separator] := by decide

theorem lineTokens_joinGroups (groups : List (List (List Char))) :
    lineTokens (joinGroups groups) = List.intercalate [separator] (groups.map lineTokens) := by
  induction groups with
  | nil => rfl
  | cons group rest ih =>
    by_cases hRest : rest = []
    · simp [hRest]
    · rw [joinGroups_cons hRest, lineTokens_append, ← List.singleton_append, lineTokens_append, ih,
        lineTokens_separator, List.map_cons, List.intercalate_cons_of_ne_nil (by simp [hRest]),
        List.append_assoc]

/-- A preset launches the tokens of the lines that it is written with. -/
theorem Preset.tokens_eq (preset : Preset) : preset.tokens = lineTokens preset.bodyLines := by
  rw [bodyLines, lineTokens_append, lineTokens_joinGroups, List.map_map]
  rfl

/-! ### Counting separators -/

/-- Between any two groups stands one separator. -/
theorem count_joinGroups {groups : List (List (List Char))} (h : groups ≠ []) :
    (lineTokens (joinGroups groups)).count separator + 1 =
      (groups.flatMap lineTokens).count separator + groups.length := by
  induction groups with
  | nil => contradiction
  | cons group rest ih =>
    by_cases hRest : rest = []
    · simp [hRest]
    · have hTail := ih hRest
      rw [joinGroups_cons hRest, lineTokens_append, ← List.singleton_append, lineTokens_append,
        lineTokens_separator, List.count_append, List.count_append, List.flatMap_cons,
        List.count_append, List.length_cons, List.count_singleton_self]
      omega

/-- Fewer groups have fewer separators. -/
theorem count_joinGroups_lt {some all : List (List (List Char))} (hSome : some ≠ [])
    (hSub : some.Subperm all) (hFewer : some.length < all.length) :
    (lineTokens (joinGroups some)).count separator <
      (lineTokens (joinGroups all)).count separator := by
  have hAll : all ≠ [] := List.ne_nil_of_length_pos (Nat.zero_lt_of_lt hFewer)
  have hCountSome := count_joinGroups hSome
  have hCountAll := count_joinGroups hAll
  obtain ⟨taken, hPerm, hTaken⟩ := hSub
  have hCount : (some.flatMap lineTokens).count separator ≤
      (all.flatMap lineTokens).count separator := by
    rw [← (hPerm.flatMap_right lineTokens).count_eq]
    exact (hTaken.flatMap lineTokens).count_le separator
  omega

end PresetCompiler
