import PresetCompiler.Proofs.Text.Squeeze
import PresetCompiler.Strategy.Catalog

/-! Which strategy is found for an argument text. A catalog tries the strategies of a category in
ascending order, so that the one found is the least that can be looked up and has the wanted words
(`Catalog.least_of_find?`); an entry that cannot be looked up is passed over. -/

namespace PresetCompiler

open Text

theorem normalizeArgs_contentLines (args : String) :
    normalizeArgs (String.ofList (joinLines (contentLines args.toList))) = normalizeArgs args := by
  rw [normalizeArgs, normalizeArgs, String.toList_ofList, words_contentLines]

namespace StrategySource

variable {source : StrategySource} {category wanted id : String}

/-- A strategy that can be looked up and has the wanted words. -/
def HasWords (source : StrategySource) (category wanted id : String) : Prop :=
  ∃ args, source.args category id = .ok args ∧ normalizeArgs args = wanted

theorem isMatch_iff :
    source.isMatch category wanted id = true ↔ source.HasWords category wanted id := by
  rw [isMatch, HasWords]
  cases source.args category id with
  | ok args => simp
  | error fault => simp

theorem findForBlock?_eq {block : Block} (hWords : normalizeArgs block.strategyArgs = wanted)
    (hNil : wanted ≠ "") :
    source.findForBlock? block =
      (source.ids block.category).find? (source.isMatch block.category wanted) := by
  have key : source.findForBlock? block =
      if normalizeArgs block.strategyArgs = "" then none
      else (source.ids block.category).find?
        (source.isMatch block.category (normalizeArgs block.strategyArgs)) := by
    rw [findForBlock?]
    cases block.protocol with
    | tcp => rfl
    | udp => rfl
  rw [key, hWords, if_neg hNil]

end StrategySource

/-- The first of ascending texts is the least. -/
theorem le_of_find? {all : List String} {best : String} {keep : String → Bool}
    (h : all.Pairwise (· < ·)) (hFind : all.find? keep = some best) :
    ∀ other ∈ all, keep other = true → best ≤ other := by
  induction all with
  | nil => simp
  | cons first rest ih =>
    obtain ⟨hFirst, hRest⟩ := List.pairwise_cons.mp h
    intro other hOther hKeep
    by_cases hHere : keep first = true
    · rw [List.find?_cons_of_pos hHere] at hFind
      obtain rfl := Option.some.inj hFind
      rcases List.mem_cons.mp hOther with rfl | hOther
      · exact String.le_refl _
      · have hLess := hFirst other hOther
        exact String.not_lt.mp fun hMore => String.lt_irrefl _ (String.lt_trans hLess hMore)
    · rw [List.find?_cons_of_neg hHere] at hFind
      rcases List.mem_cons.mp hOther with rfl | hOther
      · exact absurd hKeep hHere
      · exact ih hRest hFind other hOther hKeep

namespace Catalog

variable {catalog : Catalog} {category wanted best id : String}

theorem mem_ids_of_args {args : String} (h : catalog.args category id = .ok args) :
    id ∈ catalog.ids category := by
  rw [Catalog.args, entry?] at h
  rw [ids]
  cases hCategory : catalog.categories.get? category with
  | none => rw [hCategory] at h; cases h
  | some entries =>
    cases hEntry : entries.get? id with
    | none => rw [hCategory, Option.bind_some, hEntry] at h; cases h
    | some value =>
      rw [Dictionary.get?, List.lookup_eq_some_iff] at hEntry
      obtain ⟨front, back, hEntries, -⟩ := hEntry
      exact List.mem_map.mpr ⟨(id, value), by simp [hEntries], rfl⟩

theorem pairwise_ids : (catalog.ids category).Pairwise (· < ·) := by
  rw [ids]
  cases catalog.categories.get? category with
  | none => exact List.Pairwise.nil
  | some entries => exact List.pairwise_map.mpr entries.ascending

theorem exists_find? (h : catalog.source.HasWords category wanted id) :
    ∃ best, (catalog.ids category).find? (catalog.source.isMatch category wanted) = some best := by
  obtain ⟨args, hArgs, hWords⟩ := h
  refine Option.isSome_iff_exists.mp (List.find?_isSome.mpr ⟨id, mem_ids_of_args hArgs, ?_⟩)
  exact StrategySource.isMatch_iff.mpr ⟨args, hArgs, hWords⟩

theorem least_of_find?
    (h : (catalog.ids category).find? (catalog.source.isMatch category wanted) = some best) :
    catalog.source.HasWords category wanted best ∧
      ∀ other, catalog.source.HasWords category wanted other → best ≤ other := by
  refine ⟨StrategySource.isMatch_iff.mp (List.find?_some h), fun other hOther => ?_⟩
  have hMatch := StrategySource.isMatch_iff.mpr hOther
  obtain ⟨args, hArgs, -⟩ := hOther
  exact le_of_find? pairwise_ids h other (mem_ids_of_args hArgs) hMatch

end Catalog

end PresetCompiler
