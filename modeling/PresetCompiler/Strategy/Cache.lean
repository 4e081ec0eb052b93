import PresetCompiler.Storage

/-! A cache of catalogs by path. A catalog is loaded again when its file has a later time than when
it was loaded, or after it was dropped. -/

namespace PresetCompiler

/-- A catalog as it was loaded. -/
structure CachedCatalog where
  catalog : Catalog
  /-- The time of the file before it was loaded, when it had one. -/
  modified : Option Int
  /-- How many catalogs were loaded before this one. -/
  serial : Nat

/-- Whether a file has changed since its catalog was loaded. A file without a time has not. -/
def CachedCatalog.isStale (cached : CachedCatalog) (modified : Option Int) : Bool :=
  match cached.modified, modified with
  | some earlier, some later => earlier < later
  | _, _ => false

/-- Cached catalogs, at most one for the parts of a path. -/
structure CatalogCache where
  entries : List (List String × CachedCatalog)
  /-- How many catalogs have been loaded. -/
  loads : Nat

namespace CatalogCache

/-- The cache without catalogs. -/
def empty : CatalogCache := ⟨[], 0⟩

instance : Inhabited CatalogCache := ⟨empty⟩

/-- The catalog that is cached for a path. -/
def find? (cache : CatalogCache) (path : String) : Option CachedCatalog :=
  cache.entries.lookup (Path.parts path)

/-- The entries without the one for some parts. -/
def withoutParts (parts : List String) (entries : List (List String × CachedCatalog)) :
    List (List String × CachedCatalog) :=
  entries.filter fun entry => entry.1 ≠ parts

theorem withoutParts_cons (parts : List String) (entry : List String × CachedCatalog)
    (rest : List (List String × CachedCatalog)) :
    withoutParts parts (entry :: rest) =
      if entry.1 = parts then withoutParts parts rest else entry :: withoutParts parts rest := by
  by_cases h : entry.1 = parts <;> simp [withoutParts, h]

theorem lookup_withoutParts (parts other : List String)
    (entries : List (List String × CachedCatalog)) :
    (withoutParts parts entries).lookup other =
      if other = parts then none else entries.lookup other := by
  induction entries with
  | nil => simp [withoutParts]
  | cons entry rest ih =>
    obtain ⟨p, cached⟩ := entry
    rw [withoutParts_cons]
    split
    · rename_i hp
      simp only at hp
      subst hp
      rw [ih]
      by_cases h : other = p
      · rw [if_pos h, if_pos h]
      · simp only [if_neg h, List.lookup_cons, beq_false_of_ne h]
    · rename_i hp
      by_cases h : other = p
      · subst h
        simp [hp]
      · simp only [List.lookup_cons, beq_false_of_ne h, ih]

/-- The cache with a catalog loaded anew. -/
def insert (cache : CatalogCache) (path : String) (catalog : Catalog) (modified : Option Int) :
    CachedCatalog × CatalogCache :=
  let cached : CachedCatalog := ⟨catalog, modified, cache.loads⟩
  let parts := Path.parts path
  (cached, ⟨(parts, cached) :: withoutParts parts cache.entries, cache.loads + 1⟩)

/-- A catalog that was loaded is cached for its own path, and for the other paths nothing
changes. -/
theorem find?_insert (cache : CatalogCache) (path : String) (catalog : Catalog)
    (modified : Option Int) (other : String) :
    (cache.insert path catalog modified).2.find? other =
      if Path.parts other = Path.parts path then some (cache.insert path catalog modified).1
      else cache.find? other := by
  simp only [insert, find?]
  by_cases h : Path.parts other = Path.parts path
  · simp [h]
  · simp [h, List.lookup_cons, beq_false_of_ne h, lookup_withoutParts]

/-- Loads a catalog into the cache. A failure leaves the cache as it was. -/
def reload (cache : CatalogCache) (tree : FileTree) (path : String) :
    Except Fault CachedCatalog × CatalogCache :=
  match (Script.run tree (Catalog.load path).run).1 with
  | .error fault => (.error fault, cache)
  | .ok catalog =>
    let (cached, cache) := cache.insert path catalog (tree.modified? path)
    (.ok cached, cache)

/-- The catalog in a file, loaded when the cache has none or a stale one. -/
def get (cache : CatalogCache) (tree : FileTree) (path : String) :
    Except Fault CachedCatalog × CatalogCache :=
  match cache.find? path with
  | some cached =>
    if cached.isStale (tree.modified? path) then cache.reload tree path else (.ok cached, cache)
  | none => cache.reload tree path

/-- Drops a catalog, and says whether there was one. -/
def invalidate (cache : CatalogCache) (path : String) : Bool × CatalogCache :=
  ((cache.find? path).isSome,
    { cache with entries := withoutParts (Path.parts path) cache.entries })

theorem find?_invalidate (cache : CatalogCache) (path other : String) :
    (cache.invalidate path).2.find? other =
      if Path.parts other = Path.parts path then none else cache.find? other := by
  simp only [invalidate, find?, lookup_withoutParts]

/-- Drops every catalog. -/
def clear (cache : CatalogCache) : CatalogCache :=
  { cache with entries := [] }

/-- How many catalogs are cached. -/
def size (cache : CatalogCache) : Nat :=
  cache.entries.length

end CatalogCache

end PresetCompiler
