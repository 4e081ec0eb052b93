/-! Finite maps from strings, held as entries in ascending key order. Two dictionaries with the same
lookups are therefore the same value. -/

namespace PresetCompiler

/-- Adds an entry to entries in key order, in place of one with the same key. -/
def insertEntry (key : String) (value : α) : List (String × α) → List (String × α)
  | [] => [(key, value)]
  | (k, v) :: rest =>
    if key < k then (key, value) :: (k, v) :: rest
    else if key = k then (key, value) :: rest
    else (k, v) :: insertEntry key value rest

theorem mem_insertEntry {key : String} {value : α} {e : String × α} {entries : List (String × α)}
    (h : e ∈ insertEntry key value entries) : e = (key, value) ∨ e ∈ entries := by
  induction entries with
  | nil => simpa [insertEntry] using h
  | cons entry rest ih =>
    obtain ⟨k, v⟩ := entry
    simp only [insertEntry] at h
    split at h
    · simpa using h
    · split at h
      · rcases List.mem_cons.1 h with h | h
        · exact .inl h
        · exact .inr (List.mem_cons_of_mem _ h)
      · rcases List.mem_cons.1 h with h | h
        · exact .inr (by simp [h])
        · rcases ih h with h | h
          · exact .inl h
          · exact .inr (List.mem_cons_of_mem _ h)

/-- Keys in strictly ascending order. -/
def Ascending (entries : List (String × α)) : Prop :=
  entries.Pairwise fun a b => a.1 < b.1

theorem Ascending.insertEntry {entries : List (String × α)} (h : Ascending entries) (key : String)
    (value : α) : Ascending (insertEntry key value entries) := by
  induction entries with
  | nil => simp [Ascending, PresetCompiler.insertEntry]
  | cons entry rest ih =>
    obtain ⟨k, v⟩ := entry
    have hHead : ∀ e ∈ rest, k < e.1 := fun e he => List.rel_of_pairwise_cons h he
    have hRest : Ascending rest := List.Pairwise.of_cons h
    simp only [PresetCompiler.insertEntry]
    split
    · rename_i hlt
      refine List.Pairwise.cons (fun e he => ?_) h
      rcases List.mem_cons.1 he with rfl | he
      · exact hlt
      · exact String.lt_trans hlt (hHead e he)
    · rename_i hge
      split
      · rename_i heq
        subst heq
        exact List.Pairwise.cons (fun e he => hHead e he) hRest
      · rename_i hne
        refine List.Pairwise.cons (fun e he => ?_) (ih hRest)
        rcases mem_insertEntry he with rfl | he
        · by_cases hlt : k < key
          · exact hlt
          · exact absurd (String.le_antisymm (String.not_lt.1 hlt) (String.not_lt.1 hge)) hne
        · exact hHead e he

/-- A finite map from strings. -/
structure Dictionary (α : Type) where
  /-- The entries, by key. -/
  entries : List (String × α)
  ascending : Ascending entries
  deriving DecidableEq

namespace Dictionary

instance [BEq α] : BEq (Dictionary α) := ⟨fun a b => a.entries == b.entries⟩

/-- The dictionary without entries. -/
def empty : Dictionary α := ⟨[], List.Pairwise.nil⟩

instance : EmptyCollection (Dictionary α) := ⟨empty⟩
instance : Inhabited (Dictionary α) := ⟨empty⟩

/-- The value at a key. -/
def get? (d : Dictionary α) (key : String) : Option α :=
  d.entries.lookup key

/-- The dictionary with a value at a key, in place of the value that was there. -/
def insert (d : Dictionary α) (key : String) (value : α) : Dictionary α :=
  ⟨insertEntry key value d.entries, d.ascending.insertEntry key value⟩

/-- The keys in ascending order. -/
def keys (d : Dictionary α) : List String :=
  d.entries.map Prod.fst

/-- The dictionary of some entries; of several with one key the last counts. -/
def ofList (entries : List (String × α)) : Dictionary α :=
  entries.foldl (fun d e => d.insert e.1 e.2) empty

@[simp] theorem entries_empty : (empty : Dictionary α).entries = [] := rfl

@[simp] theorem get?_empty (key : String) : (empty : Dictionary α).get? key = none := rfl

theorem lookup_cons_ne {key k : String} {v : α} {rest : List (String × α)} (h : key ≠ k) :
    ((k, v) :: rest).lookup key = rest.lookup key := by
  rw [List.lookup_cons, beq_false_of_ne h]

theorem lookup_insertEntry (key key' : String) (value : α) (entries : List (String × α)) :
    (insertEntry key value entries).lookup key' =
      if key' = key then some value else entries.lookup key' := by
  induction entries with
  | nil =>
    by_cases h : key' = key
    · simp [insertEntry, h]
    · simp [insertEntry, h, lookup_cons_ne h]
  | cons entry rest ih =>
    obtain ⟨k, v⟩ := entry
    simp only [insertEntry]
    split
    · by_cases h : key' = key
      · simp [h]
      · simp [h, lookup_cons_ne h]
    · split
      · rename_i heq
        subst heq
        by_cases h : key' = key
        · simp [h]
        · simp [h, lookup_cons_ne h]
      · rename_i hne
        by_cases h : key' = k
        · subst h
          simp [Ne.symm hne]
        · rw [lookup_cons_ne h, lookup_cons_ne h, ih]

/-- A key that was inserted has its new value, and the other keys keep theirs. -/
theorem get?_insert (d : Dictionary α) (key key' : String) (value : α) :
    (d.insert key value).get? key' = if key' = key then some value else d.get? key' :=
  lookup_insertEntry key key' value d.entries

end Dictionary

end PresetCompiler
