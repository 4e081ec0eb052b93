import Mathlib.Data.List.Induction
import Mathlib.Data.List.Nodup
import PresetCompiler.Dictionary

/-! Dictionaries and the lists of entries that they are made from. A dictionary is determined by its
lookups (`Dictionary.ext_get?`), so that the order of entries with different keys does not matter,
and of several entries with one key the last counts. -/

namespace PresetCompiler

/-! ### Entries -/

/-- A key above all others is put at the end. -/
theorem insertEntry_of_forall_lt {key : String} {entries : List (String × α)}
    (h : ∀ entry ∈ entries, entry.1 < key) (value : α) :
    insertEntry key value entries = entries ++ [(key, value)] := by
  induction entries with
  | nil => rfl
  | cons entry entries ih =>
    obtain ⟨k, v⟩ := entry
    have hLess : k < key := h (k, v) List.mem_cons_self
    have hNot : ¬ key < k := fun hMore => String.lt_irrefl k (String.lt_trans hLess hMore)
    have hNe : key ≠ k := by
      rintro rfl
      exact String.lt_irrefl key hLess
    rw [insertEntry, if_neg hNot, if_neg hNe, ih fun e he => h e (List.mem_cons_of_mem _ he),
      List.cons_append]

theorem Ascending.nodup_keys {entries : List (String × α)} (h : Ascending entries) :
    (entries.map Prod.fst).Nodup := by
  refine List.pairwise_map.2 (List.Pairwise.imp (fun {a b} hLess => ?_) h)
  rintro hSame
  exact String.lt_irrefl b.1 (hSame ▸ hLess)

/-- When keys differ, an entry is found by its key. -/
theorem lookup_eq_some_iff_mem {entries : List (String × α)} (h : (entries.map Prod.fst).Nodup)
    {key : String} {value : α} : entries.lookup key = some value ↔ (key, value) ∈ entries := by
  induction entries with
  | nil => simp
  | cons entry entries ih =>
    obtain ⟨k, v⟩ := entry
    obtain ⟨hKey, hRest⟩ := List.nodup_cons.mp h
    by_cases hSame : key = k
    · subst hSame
      have hNot : (key, value) ∉ entries := fun hMem =>
        hKey (List.mem_map.mpr ⟨_, hMem, rfl⟩)
      simp [hNot, eq_comm]
    · rw [Dictionary.lookup_cons_ne hSame, ih hRest, List.mem_cons, Prod.mk.injEq,
        or_iff_right fun hEntry => hSame hEntry.1]

namespace Dictionary

theorem ext_entries {d d' : Dictionary α} (h : d.entries = d'.entries) : d = d' := by
  cases d
  cases d'
  cases h
  rfl

theorem entries_foldl_insert {after : List (String × α)} (d : Dictionary α)
    (h : Ascending (d.entries ++ after)) :
    (after.foldl (fun d e => d.insert e.1 e.2) d).entries = d.entries ++ after := by
  induction after generalizing d with
  | nil => simp
  | cons entry after ih =>
    have hLess : ∀ e ∈ d.entries, e.1 < entry.1 := fun e he =>
      (List.pairwise_append.1 h).2.2 e he entry List.mem_cons_self
    have hEntries : (d.insert entry.1 entry.2).entries = d.entries ++ [entry] :=
      insertEntry_of_forall_lt hLess entry.2
    rw [List.foldl_cons, ih _ (by rw [hEntries]; simpa using h), hEntries, List.append_assoc,
      List.singleton_append]

/-- A dictionary is made from its own entries. -/
theorem ofList_entries (d : Dictionary α) : ofList d.entries = d := by
  apply ext_entries
  rw [ofList, entries_foldl_insert empty d.ascending]
  rfl

/-! ### Lookups -/

theorem mem_entries_iff {d : Dictionary α} {key : String} {value : α} :
    (key, value) ∈ d.entries ↔ d.get? key = some value :=
  (lookup_eq_some_iff_mem d.ascending.nodup_keys).symm

theorem mem_keys_iff {d : Dictionary α} {key : String} :
    key ∈ d.keys ↔ ∃ value, d.get? key = some value := by
  rw [keys, List.mem_map]
  constructor
  · rintro ⟨⟨key, value⟩, hEntry, rfl⟩
    exact ⟨value, mem_entries_iff.mp hEntry⟩
  · rintro ⟨value, hValue⟩
    exact ⟨_, mem_entries_iff.mpr hValue, rfl⟩

/-- Dictionaries with the same lookups are the same. -/
theorem ext_get? {d d' : Dictionary α} (h : ∀ key, d.get? key = d'.get? key) : d = d' := by
  have hMem (entry : String × α) : entry ∈ d.entries ↔ entry ∈ d'.entries := by
    rw [← entry.eta, mem_entries_iff, mem_entries_iff, h]
  have hPerm : d.entries.Perm d'.entries :=
    (List.perm_ext_iff_of_nodup (List.Nodup.of_map _ d.ascending.nodup_keys)
      (List.Nodup.of_map _ d'.ascending.nodup_keys)).mpr hMem
  refine ext_entries (hPerm.eq_of_pairwise (fun a b _ _ hLess hMore => ?_) d.ascending d'.ascending)
  exact absurd (String.lt_trans hLess hMore) (String.lt_irrefl a.1)

theorem ofList_concat (entries : List (String × α)) (last : String × α) :
    ofList (entries ++ [last]) = (ofList entries).insert last.1 last.2 :=
  List.foldl_concat ..

theorem get?_ofList (entries : List (String × α)) (key : String) :
    (ofList entries).get? key = entries.reverse.lookup key := by
  induction entries using List.reverseRecOn with
  | nil => rfl
  | append_singleton entries last ih =>
    obtain ⟨k, v⟩ := last
    rw [ofList_concat, get?_insert, ih, List.reverse_concat]
    by_cases hSame : key = k
    · subst hSame
      simp
    · rw [if_neg hSame, lookup_cons_ne hSame]

/-- A key has the value of the last of the entries with it. -/
theorem get?_ofList_eq_some_iff {entries : List (String × α)} {key : String} {value : α} :
    (ofList entries).get? key = some value ↔
      ∃ front back, entries = front ++ (key, value) :: back ∧ key ∉ back.map Prod.fst := by
  rw [get?_ofList, List.lookup_eq_some_iff]
  constructor
  · rintro ⟨back, front, hEntries, hBack⟩
    refine ⟨front.reverse, back.reverse, by simpa using congrArg List.reverse hEntries, ?_⟩
    intro hMem
    obtain ⟨entry, hEntry, hKey⟩ := List.mem_map.mp hMem
    exact bne_iff_ne.mp (hBack entry (List.mem_reverse.mp hEntry)) hKey.symm
  · rintro ⟨front, back, rfl, hBack⟩
    refine ⟨back.reverse, front.reverse, by simp, fun entry hEntry => bne_iff_ne.mpr ?_⟩
    rintro rfl
    exact hBack (List.mem_map_of_mem (List.mem_reverse.mp hEntry))

/-- The order in which the entries of a dictionary are put together does not matter. -/
theorem ofList_of_perm {entries : List (String × α)} {d : Dictionary α}
    (h : entries.Perm d.entries) : ofList entries = d := by
  have hPerm := (List.reverse_perm entries).trans h
  have hKeys := (hPerm.map Prod.fst).nodup_iff.mpr d.ascending.nodup_keys
  refine ext_get? fun key => Option.ext fun value => ?_
  rw [get?_ofList, lookup_eq_some_iff_mem hKeys, hPerm.mem_iff, mem_entries_iff]

end Dictionary

/-- A list is put together again from what is read of its items one by one. -/
theorem mapM_map_eq_some {f : β → Option α} {g : α → β} {xs : List α}
    (h : ∀ x ∈ xs, f (g x) = some x) : (xs.map g).mapM f = some xs := by
  induction xs with
  | nil => rfl
  | cons x xs ih =>
    rw [List.map_cons, List.mapM_cons, h x List.mem_cons_self,
      ih fun y hy => h y (List.mem_cons_of_mem _ hy)]
    rfl

end PresetCompiler
