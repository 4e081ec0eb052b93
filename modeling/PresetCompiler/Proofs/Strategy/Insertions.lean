import PresetCompiler.Proofs.Dictionary
import PresetCompiler.Proofs.Strategy.Matching
import PresetCompiler.Proofs.Toml.Documents

/-! Catalogs that are built by insertions. What an insertion changes is the entry of one strategy
(`Catalog.entry?_insert`), so that of several insertions for a strategy the last counts. All entries
of such a catalog are texts, and a catalog of texts is read back from its TOML document. -/

namespace PresetCompiler

open Toml

variable {catalog : Catalog} {category id : String}

namespace Catalog

/-! ### One insertion -/

/-- An insertion sets the entry of its strategy, and only that. -/
theorem entry?_insert (catalog : Catalog) (category id args category' id' : String) :
    entry? (catalog.insert category id args) category' id' =
      if category' = category ∧ id' = id then some (.string args)
      else catalog.entry? category' id' := by
  rw [Catalog.entry?, insert, Dictionary.get?_insert]
  by_cases hCategory : category' = category
  · subst hCategory
    rw [if_pos rfl, Option.bind_some, Dictionary.get?_insert, entry?]
    by_cases hId : id' = id
    · simp [hId]
    · cases catalog.categories.get? category' <;> simp [hId]
  · simp [hCategory, entry?]

theorem mem_ids_iff :
    id ∈ catalog.ids category ↔ ∃ entry, catalog.entry? category id = some entry := by
  rw [ids, entry?]
  cases hCategory : catalog.categories.get? category with
  | none => simp
  | some entries => exact Dictionary.mem_keys_iff

/-- Every entry is a text. -/
def IsTextual (catalog : Catalog) : Prop :=
  ∀ category ∈ catalog.categories.entries, ∀ entry ∈ category.2.entries,
    ∃ text, entry.2 = .string text

theorem IsTextual.insert (h : catalog.IsTextual) (category id args : String) :
    (catalog.insert category id args).IsTextual := by
  intro entries hCategory entry hEntry
  rcases mem_insertEntry hCategory with rfl | hCategory
  · rcases mem_insertEntry hEntry with rfl | hEntry
    · exact ⟨args, rfl⟩
    · cases hEntries : catalog.categories.get? category with
      | none => simp [hEntries] at hEntry
      | some entries =>
        rw [hEntries, Option.getD_some] at hEntry
        exact h _ (Dictionary.mem_entries_iff.2 hEntries) entry hEntry
  · exact h entries hCategory entry hEntry

theorem isTextual_empty : empty.IsTextual := by
  simp [IsTextual, empty]

end Catalog

/-! ### Several insertions -/

/-- An argument text for a strategy. -/
structure Insertion where
  category : String
  id : String
  args : String
  deriving DecidableEq, Repr

/-- The last argument text that insertions have for a strategy. -/
def lastArgs? (insertions : List Insertion) (category id : String) : Option String :=
  (insertions.filter fun insertion =>
    insertion.category = category ∧ insertion.id = id).getLast?.map Insertion.args

theorem lastArgs?_concat (insertions : List Insertion) (last : Insertion) (category id : String) :
    lastArgs? (insertions ++ [last]) category id =
      if category = last.category ∧ id = last.id then some last.args
      else lastArgs? insertions category id := by
  rw [lastArgs?, List.filter_append]
  by_cases hLast : category = last.category ∧ id = last.id
  · simp [hLast]
  · have hNot : ¬ (last.category = category ∧ last.id = id) := fun h => hLast ⟨h.1.symm, h.2.symm⟩
    simp [hLast, hNot, lastArgs?]

theorem exists_lastArgs?_iff {insertions : List Insertion} :
    (∃ args, lastArgs? insertions category id = some args) ↔
      ∃ insertion ∈ insertions, insertion.category = category ∧ insertion.id = id := by
  rw [← Option.isSome_iff_exists, lastArgs?, Option.isSome_map, List.getLast?_isSome]
  simp [List.filter_eq_nil_iff]

namespace Catalog

/-- The catalog of some insertions, one after the other. -/
def ofInsertions (insertions : List Insertion) : Catalog :=
  insertions.foldl (fun catalog insertion =>
    catalog.insert insertion.category insertion.id insertion.args) empty

theorem ofInsertions_concat (insertions : List Insertion) (last : Insertion) :
    ofInsertions (insertions ++ [last]) =
      (ofInsertions insertions).insert last.category last.id last.args := by
  simp [ofInsertions]

theorem isTextual_ofInsertions (insertions : List Insertion) :
    (ofInsertions insertions).IsTextual := by
  induction insertions using List.reverseRecOn with
  | nil => exact isTextual_empty
  | append_singleton insertions last ih =>
    rw [ofInsertions_concat]
    exact ih.insert _ _ _

/-- Of the insertions for a strategy the last counts, and without any there is no entry. -/
theorem entry?_ofInsertions (insertions : List Insertion) (category id : String) :
    entry? (ofInsertions insertions) category id =
      (lastArgs? insertions category id).map Value.string := by
  -- from the end, since the last insertion is the one that decides
  induction insertions using List.reverseRecOn with
  | nil => rfl
  | append_singleton insertions last ih =>
    rw [ofInsertions_concat, entry?_insert, lastArgs?_concat, ih]
    split <;> rfl

theorem args_ofInsertions {insertions : List Insertion} {args : String}
    (h : lastArgs? insertions category id = some args) :
    (ofInsertions insertions).args category id = .ok args := by
  rw [Catalog.args, entry?_ofInsertions, h]
  rfl

theorem mem_ids_ofInsertions {insertions : List Insertion} :
    id ∈ (ofInsertions insertions).ids category ↔
      ∃ insertion ∈ insertions, insertion.category = category ∧ insertion.id = id := by
  rw [mem_ids_iff, entry?_ofInsertions, ← exists_lastArgs?_iff]
  simp

end Catalog

/-! ### Reading a catalog back -/

namespace Catalog

/-- The tables of a catalog. -/
def tables (catalog : Catalog) : List NamedTable :=
  catalog.categories.entries.map fun category => (category.1, category.2.entries)

theorem isPlainTable_of_mem_tables (h : catalog.IsTextual) :
    ∀ table ∈ catalog.tables, IsPlainTable table := by
  intro table hTable
  obtain ⟨category, hCategory, rfl⟩ := List.mem_map.1 hTable
  refine ⟨category.2.ascending.nodup_keys, fun entry hEntry => ?_⟩
  obtain ⟨text, hText⟩ := h category hCategory entry hEntry
  simp [hText, Value.IsPlain]

theorem readDocument?_toToml (h : catalog.IsTextual) :
    readDocument? catalog.toToml = some [("categories", .table (tableValues catalog.tables))] := by
  have hToml : catalog.toToml =
      writeDocument (nest ["categories"] (tableValues catalog.tables)) := by
    simp [toToml, nest, tableValues, tables, Function.comp_def]
  have hNames : (catalog.tables.map Prod.fst).Nodup := by
    simpa [tables, Function.comp_def] using catalog.categories.ascending.nodup_keys
  rw [hToml]
  by_cases hTables : catalog.tables = []
  · rw [hTables]
    rfl
  · exact readDocument?_writeDocument (.inr hTables) (by decide) hNames
      (isPlainTable_of_mem_tables h)

/-- Reading each of some values back makes the values again. -/
theorem categoryOf_entries {entries : Dictionary Value}
    (h : ∀ entry ∈ entries.entries, ∃ text, entry.2 = .string text) :
    categoryOf (.table entries.entries) = some entries := by
  have hEntry : ∀ entry ∈ entries.entries,
      (entry.2.canonical?.bind fun value => some (entry.1, value)) = some entry := by
    intro entry hEntry
    obtain ⟨text, hText⟩ := h entry hEntry
    rw [hText, Value.canonical?.eq_def]
    simp [← hText]
  have hEntries : entries.entries.mapM (fun entry : String × Value =>
      entry.2.canonical?.bind fun value => some (entry.1, value)) = some entries.entries := by
    simpa using mapM_map_eq_some (g := fun entry => entry) hEntry
  have hCategory : categoryOf (.table entries.entries) =
      (entries.entries.mapM fun entry : String × Value =>
        entry.2.canonical?.bind fun value => some (entry.1, value)).bind fun entries =>
          some (.ofList entries) := rfl
  rw [hCategory, hEntries, Option.bind_some, Dictionary.ofList_entries]

theorem categoriesOf_tableValues (h : catalog.IsTextual) :
    categoriesOf (.table (tableValues catalog.tables)) = some catalog.categories := by
  have hTables : tableValues catalog.tables =
      catalog.categories.entries.map fun category => (category.1, .table category.2.entries) := by
    simp [tableValues, tables, Function.comp_def]
  have hCategory : ∀ category ∈ catalog.categories.entries,
      ((categoryOf (.table category.2.entries)).bind fun entries => some (category.1, entries)) =
        some category := by
    intro category hCategory
    rw [categoryOf_entries (h category hCategory), Option.bind_some]
  have hEntries := mapM_map_eq_some
    (f := fun entry => (categoryOf entry.2).bind fun entries => some (entry.1, entries))
    (g := fun category => (category.1, .table category.2.entries)) hCategory
  have hCategories : categoriesOf (.table (tableValues catalog.tables)) =
      ((tableValues catalog.tables).mapM fun entry =>
        (categoryOf entry.2).bind fun entries => some (entry.1, entries)).bind fun categories =>
          some (.ofList categories) := rfl
  rw [hCategories, hTables, hEntries, Option.bind_some, Dictionary.ofList_entries]

/-- A catalog of texts is read back from its document. -/
theorem ofToml_toToml (h : catalog.IsTextual) : ofToml catalog.toToml = .ok catalog := by
  rw [ofToml, readDocument?_toToml h]
  simp [categoriesOf_tableValues h]

end Catalog

end PresetCompiler
