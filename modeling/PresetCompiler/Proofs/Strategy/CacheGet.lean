import PresetCompiler.Proofs.FileTree.Nodes
import PresetCompiler.Strategy.Cache

/-! One request to the catalog cache. It answers with the cached catalog, or loads one and caches it
for the path, or fails and leaves the cache as it was (`CatalogCache.outcome`). -/

namespace PresetCompiler

/-! ### Loading -/

namespace Catalog

/-- The catalog in the bytes of a file. -/
def ofBytes (bytes : ByteArray) : Except Fault Catalog := do
  ofToml (← (strictText bytes).mapError .file)

/-- The result of loading a catalog from a tree. -/
def loadFrom (tree : FileTree) (path : String) : Except Fault Catalog :=
  (Script.run tree (load path).run).1

variable {tree : FileTree} {path : String}

theorem loadFrom_eq (tree : FileTree) (path : String) :
    loadFrom tree path =
      if tree.contains path then (tree.read path).mapError .file >>= ofBytes
      else .error (.catalogNotFound path) := by
  have hContains : FileSystem.contains tree path = tree.contains path := rfl
  have hRead : FileSystem.read tree path = tree.read path := rfl
  rw [loadFrom]
  change (Script.run tree (Script.contains path _)).1 = _
  rw [Script.run, hContains]
  cases tree.contains path with
  | false => rfl
  | true =>
    change (Script.run tree (Script.read path _)).1 = _
    rw [Script.run, hRead]
    cases tree.read path with
    | error fault => rfl
    | ok bytes =>
      change (Script.run tree (Script.bind (Attempt.ofExcept ((strictText bytes).mapError .file))
        (ExceptT.bindCont fun text => Attempt.ofExcept (ofToml text)))).1 = ofBytes bytes
      rw [ofBytes]
      cases strictText bytes <;> rfl

theorem loadFrom_of_file {bytes : ByteArray} {time : Int}
    (h : tree.find path = .ok (.file bytes time)) : loadFrom tree path = ofBytes bytes := by
  rw [loadFrom_eq, FileTree.contains, FileTree.read, h]
  rfl

theorem loadFrom_of_error {fault : FileFault} (h : tree.find path = .error fault) :
    loadFrom tree path = .error (.catalogNotFound path) := by
  rw [loadFrom_eq, FileTree.contains, h]
  rfl

theorem exists_of_loadFrom {catalog : Catalog} (h : loadFrom tree path = .ok catalog) :
    ∃ bytes time, tree.find path = .ok (.file bytes time) ∧ ofBytes bytes = .ok catalog := by
  cases hFind : tree.find path with
  | error fault => rw [loadFrom_of_error hFind] at h; cases h
  | ok node =>
    cases node with
    | file bytes time => exact ⟨bytes, time, rfl, (loadFrom_of_file hFind).symm.trans h⟩
    | directory =>
      rw [loadFrom_eq, FileTree.contains, FileTree.read, hFind] at h
      cases h

end Catalog

/-! ### Requests -/

namespace CatalogCache

variable {cache : CatalogCache} {tree : FileTree} {path : String} {cached : CachedCatalog}

theorem get_of_fresh (h : cache.find? path = some cached)
    (hFresh : cached.isStale (tree.modified? path) = false) :
    cache.get tree path = (.ok cached, cache) := by
  rw [get, h]
  simp [hFresh]

theorem get_eq_reload
    (h : ∀ cached, cache.find? path = some cached → cached.isStale (tree.modified? path) = true) :
    cache.get tree path = cache.reload tree path := by
  rw [get]
  cases hFind : cache.find? path with
  | none => rfl
  | some cached => simp [h cached hFind]

theorem reload_eq (cache : CatalogCache) (tree : FileTree) (path : String) :
    cache.reload tree path =
      match Catalog.loadFrom tree path with
      | .error fault => (.error fault, cache)
      | .ok catalog =>
        (.ok (cache.insert path catalog (tree.modified? path)).1,
          (cache.insert path catalog (tree.modified? path)).2) := rfl

inductive Outcome (cache : CatalogCache) (tree : FileTree) (path : String) : Prop
  | fresh (cached : CachedCatalog) (find : cache.find? path = some cached)
      (notStale : cached.isStale (tree.modified? path) = false)
      (answer : cache.get tree path = (.ok cached, cache))
  | loaded (catalog : Catalog) (load : Catalog.loadFrom tree path = .ok catalog)
      (stale : ∀ cached, cache.find? path = some cached →
        cached.isStale (tree.modified? path) = true)
      (answer : cache.get tree path = (.ok (cache.insert path catalog (tree.modified? path)).1,
        (cache.insert path catalog (tree.modified? path)).2))
  | failed (fault : Fault) (load : Catalog.loadFrom tree path = .error fault)
      (stale : ∀ cached, cache.find? path = some cached →
        cached.isStale (tree.modified? path) = true)
      (answer : cache.get tree path = (.error fault, cache))

theorem outcome (cache : CatalogCache) (tree : FileTree) (path : String) :
    cache.Outcome tree path := by
  by_cases hFresh : ∃ cached, cache.find? path = some cached ∧
      cached.isStale (tree.modified? path) = false
  · obtain ⟨cached, hFind, hNot⟩ := hFresh
    exact .fresh cached hFind hNot (get_of_fresh hFind hNot)
  · have hStale : ∀ cached, cache.find? path = some cached →
        cached.isStale (tree.modified? path) = true := by
      intro cached hFind
      cases hNot : cached.isStale (tree.modified? path) with
      | true => rfl
      | false => exact absurd ⟨cached, hFind, hNot⟩ hFresh
    have hReload := get_eq_reload hStale
    cases hLoad : Catalog.loadFrom tree path with
    | error fault => exact .failed fault hLoad hStale (by rw [hReload, reload_eq, hLoad])
    | ok catalog => exact .loaded catalog hLoad hStale (by rw [hReload, reload_eq, hLoad])

theorem find?_congr {other : String} (h : Path.parts other = Path.parts path) :
    cache.find? other = cache.find? path := by
  rw [find?, find?, h]

theorem find?_get (h : (cache.get tree path).1 = .ok cached) :
    (cache.get tree path).2.find? path = some cached := by
  cases cache.outcome tree path with
  | fresh earlier find _ answer =>
    rw [answer] at h ⊢
    rw [find, Except.ok.inj h]
  | loaded catalog _ _ answer =>
    rw [answer] at h ⊢
    rw [find?_insert, if_pos rfl, Except.ok.inj h]
  | failed fault _ _ answer => rw [answer] at h; cases h

theorem find?_get_of_ne {other : String} (h : Path.parts other ≠ Path.parts path) :
    (cache.get tree path).2.find? other = cache.find? other := by
  cases cache.outcome tree path with
  | fresh _ _ _ answer => rw [answer]
  | loaded _ _ _ answer => rw [answer, find?_insert, if_neg h]
  | failed _ _ _ answer => rw [answer]

theorem get_of_error {fault : Fault} (h : (cache.get tree path).1 = .error fault) :
    (cache.get tree path).2 = cache := by
  cases cache.outcome tree path with
  | fresh _ _ _ answer => rw [answer]
  | loaded _ _ _ answer => rw [answer] at h; cases h
  | failed _ _ _ answer => rw [answer]

theorem modified?_of_error {fault : FileFault} (h : tree.find path = .error fault) :
    tree.modified? path = none := by
  rw [FileTree.modified?, h]

theorem isStale_none (cached : CachedCatalog) : cached.isStale none = false := by
  cases hModified : cached.modified <;> simp [CachedCatalog.isStale, hModified]

/-- Of a path that names nothing the cached catalog is given out, when there is one. -/
theorem get_of_missing {fault : FileFault} (h : tree.find path = .error fault) :
    (cache.get tree path).1 =
      match cache.find? path with
      | some cached => .ok cached
      | none => .error (.catalogNotFound path) := by
  cases hFind : cache.find? path with
  | some cached =>
    rw [get_of_fresh hFind (by rw [modified?_of_error h, isStale_none])]
  | none =>
    rw [get_eq_reload (by simp [hFind]), reload_eq, Catalog.loadFrom_of_error h]

end CatalogCache

end PresetCompiler
