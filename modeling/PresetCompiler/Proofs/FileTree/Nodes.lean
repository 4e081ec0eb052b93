import PresetCompiler.Proofs.Script

/-! What writing and removing files does to a tree. Neither makes a directory, so that a path which
can be followed afterwards led to the same location before (`Shrinks.locate`). Where a path leads is
a matter of its parts (`location_eq_of_parts`). -/

namespace PresetCompiler.FileTree

variable {tree before after : FileTree} {path other : String} {here location : Location}

/-! ### Nodes -/

theorem node?_putFile (h : location ≠ []) (bytes : ByteArray) (place : Location) :
    (tree.putFile location bytes).node? place =
      if place = location then some (.file bytes tree.clock) else tree.node? place :=
  node?_set tree (.file bytes tree.clock) h place

theorem node?_unlink (h : location ≠ []) (place : Location) :
    (tree.unlink location).node? place =
      if place = location then none else tree.node? place := by
  by_cases hRoot : place = []
  · subst hRoot
    simp [node?, Ne.symm h]
  · simp [node?, unlink, hRoot, lookup_dropEntry]

/-- What still stands after a removal stood there before. -/
theorem node?_of_erase {node : FileNode} {place : Location}
    (h : (tree.erase location).node? place = some node) : tree.node? place = some node := by
  rw [node?] at h ⊢
  by_cases hRoot : place = []
  · rwa [if_pos hRoot] at h ⊢
  · rw [if_neg hRoot] at h ⊢
    have hLookup : (tree.erase location).entries.lookup place =
        if !location.isPrefixOf place then tree.entries.lookup place else none :=
      lookup_filter_fst (fun other => !location.isPrefixOf other) place tree.entries
    rw [hLookup] at h
    split at h
    · exact h
    · contradiction

/-! ### Operations -/

theorem exists_of_write {bytes : ByteArray} (h : tree.write path bytes = .ok after) :
    ∃ location, location ≠ [] ∧ tree.locate path = .ok location ∧
      tree.node? location ≠ some .directory ∧ after = tree.putFile location bytes := by
  rw [write] at h
  split at h
  · obtain ⟨_, -, hFault⟩ := exists_of_bind h
    cases hFault
  · obtain ⟨location, hLocate, hPut⟩ := exists_of_bind h
    split at hPut
    · cases hPut
    · rename_i hNode
      refine ⟨location, ?_, hLocate, hNode, (Except.ok.inj hPut).symm⟩
      rintro rfl
      exact hNode (if_pos rfl)

theorem exists_of_remove (h : tree.remove path = .ok after) :
    ∃ location, tree.locate path = .ok location ∧ after = tree.erase location := by
  obtain ⟨location, hLocate, hErase⟩ := exists_of_bind h
  split at hErase
  · exact ⟨location, hLocate, (Except.ok.inj hErase).symm⟩
  · cases hErase

theorem exists_of_find {node : FileNode} (h : tree.find path = .ok node) :
    ∃ location, tree.locate path = .ok location ∧ tree.node? location = some node := by
  obtain ⟨location, hLocate, hNode⟩ := exists_of_bind h
  refine ⟨location, hLocate, ?_⟩
  split at hNode
  · cases hNode
  · rename_i hFile
    split at hNode
    · cases hNode
    · rw [hFile, Except.ok.inj hNode]
  · rename_i hDirectory
    rw [hDirectory, Except.ok.inj hNode]

theorem find_eq_file_iff {bytes : ByteArray} {time : Int} :
    tree.find path = .ok (.file bytes time) ↔ Path.endsWithSlash path = false ∧
      ∃ location, tree.locate path = .ok location ∧
        tree.node? location = some (.file bytes time) := by
  constructor
  · intro h
    refine ⟨?_, exists_of_find h⟩
    obtain ⟨location, -, hNode⟩ := exists_of_bind h
    split at hNode
    · cases hNode
    · split at hNode
      · cases hNode
      · rename_i hSlash
        exact Bool.eq_false_iff.mpr hSlash
    · cases hNode
  · rintro ⟨hSlash, location, hLocate, hNode⟩
    simp [find, hLocate, hNode, hSlash, Bind.bind, Except.bind]

theorem exists_of_modified? {time : Int} (h : tree.modified? path = some time) :
    ∃ location, tree.locate path = .ok location ∧
      ((∃ bytes, tree.node? location = some (.file bytes time)) ∨
        tree.node? location = some .directory) := by
  rw [modified?] at h
  split at h
  · rename_i hFind
    obtain ⟨location, hLocate, hNode⟩ := exists_of_find hFind
    rw [Option.some.inj h] at hNode
    exact ⟨location, hLocate, .inl ⟨_, hNode⟩⟩
  · rename_i hFind
    obtain ⟨location, hLocate, hNode⟩ := exists_of_find hFind
    exact ⟨location, hLocate, .inr hNode⟩
  · contradiction

/-! ### Following paths -/

/-- A later tree with no directory that was not there before. -/
structure Shrinks (before after : FileTree) : Prop where
  place : after.place = before.place
  directory : ∀ location, after.node? location = some .directory →
    before.node? location = some .directory

namespace Shrinks

theorem refl (tree : FileTree) : Shrinks tree tree :=
  ⟨rfl, fun _ h => h⟩

theorem trans {between : FileTree} (h : Shrinks before between) (h' : Shrinks between after) :
    Shrinks before after :=
  ⟨h'.place.trans h.place, fun location hAfter =>
    h.directory location (h'.directory location hAfter)⟩

theorem putFile (h : location ≠ []) (bytes : ByteArray) :
    Shrinks tree (tree.putFile location bytes) := by
  refine ⟨rfl, fun place hAfter => ?_⟩
  rw [node?_putFile h] at hAfter
  split at hAfter
  · cases hAfter
  · exact hAfter

theorem erase (tree : FileTree) (location : Location) : Shrinks tree (tree.erase location) :=
  ⟨rfl, fun _ hAfter => node?_of_erase hAfter⟩

theorem enter (h : Shrinks before after) {name : String}
    (hAfter : after.enter here name = .ok location) : before.enter here name = .ok location := by
  rw [FileTree.enter] at hAfter ⊢
  split at hAfter
  · cases hAfter
  · cases hAfter
  · rename_i hDirectory
    rw [h.directory here hDirectory]
    exact hAfter

theorem foldlM_enter (h : Shrinks before after) {names : List String}
    (hAfter : names.foldlM after.enter here = .ok location) :
    names.foldlM before.enter here = .ok location := by
  induction names generalizing here with
  | nil => exact hAfter
  | cons name rest ih =>
    rw [List.foldlM_cons] at hAfter ⊢
    obtain ⟨next, hEnter, hRest⟩ := exists_of_bind hAfter
    rw [h.enter hEnter]
    exact ih hRest

/-- A path that can be followed later leads to the same location before. -/
theorem locate (h : Shrinks before after) (hAfter : after.locate path = .ok location) :
    before.locate path = .ok location := by
  rw [FileTree.locate] at hAfter ⊢
  obtain ⟨_, hCheck, hFold⟩ := exists_of_bind hAfter
  rw [start, h.place] at hFold
  rw [hCheck]
  exact h.foldlM_enter hFold

end Shrinks

/-- Where a name leads from a directory. -/
def follow (here : Location) (name : String) : Location :=
  if name = "." then here else if name = ".." then here.dropLast else here ++ [name]

theorem eq_follow_of_enter {name : String} (h : tree.enter here name = .ok location) :
    location = follow here name := by
  rw [enter] at h
  rw [follow]
  split at h
  · cases h
  · cases h
  · rw [Location.enter] at h
    by_cases hDot : name = "."
    · rw [if_pos hDot] at h ⊢
      exact (Except.ok.inj h).symm
    · rw [if_neg hDot] at h ⊢
      by_cases hUp : name = ".."
      · rw [if_pos hUp] at h ⊢
        exact (Except.ok.inj h).symm
      · rw [if_neg hUp] at h ⊢
        split at h
        · cases h
        · exact (Except.ok.inj h).symm

theorem eq_foldl_of_foldlM {names : List String}
    (h : names.foldlM tree.enter here = .ok location) : location = names.foldl follow here := by
  induction names generalizing here with
  | nil => exact (Except.ok.inj h).symm
  | cons name rest ih =>
    rw [List.foldlM_cons] at h
    obtain ⟨next, hEnter, hRest⟩ := exists_of_bind h
    rw [List.foldl_cons, ← eq_follow_of_enter hEnter]
    exact ih hRest

theorem foldl_follow_filter (names : List String) (here : Location) :
    (names.filter (· ≠ ".")).foldl follow here = names.foldl follow here := by
  induction names generalizing here with
  | nil => rfl
  | cons name rest ih =>
    by_cases hDot : name = "."
    · subst hDot
      exact ih here
    · rw [List.filter_cons_of_pos (by simpa using hDot), List.foldl_cons, List.foldl_cons, ih]

theorem ne_slash_of_mem_names {name : String} (h : name ∈ Path.names path) : name ≠ "/" := by
  obtain ⟨run, hRun, rfl⟩ := List.mem_map.mp h
  intro hSlash
  have hMem : '/' ∈ run := by
    rw [← String.toList_ofList (l := run), hSlash]
    decide
  exact absurd (Text.not_isCut_of_mem_pieces (List.mem_filter.mp hRun).1 hMem) (by decide)

/-- Where the parts of a path lead. -/
def placeOfParts (place : Location) : List String → Location
  | "/" :: rest => rest.foldl follow []
  | parts => parts.foldl follow place

theorem foldl_follow_names (tree : FileTree) (path : String) :
    (Path.names path).foldl follow (tree.start path) =
      placeOfParts tree.place (Path.parts path) := by
  rw [Path.parts, start, Location.origin]
  split
  · exact (foldl_follow_filter _ _).symm
  · cases hNames : Path.names path with
    | nil => rfl
    | cons name rest =>
      have hSlash : name ≠ "/" := ne_slash_of_mem_names (hNames ▸ List.mem_cons_self)
      have hPlace (others : List String) : placeOfParts tree.place (name :: others) =
          (name :: others).foldl follow tree.place := by
        rw [placeOfParts]
        intro rest hSame
        exact hSlash (List.cons.inj hSame).1
      rw [hPlace, List.foldl_cons, List.foldl_cons, foldl_follow_filter]

theorem location_eq_of_parts {otherLocation : Location}
    (hParts : Path.parts path = Path.parts other) (h : tree.locate path = .ok location)
    (hOther : tree.locate other = .ok otherLocation) :
    location = otherLocation := by
  have key {path : String} {location : Location} (h : tree.locate path = .ok location) :
      location = placeOfParts tree.place (Path.parts path) := by
    obtain ⟨_, -, hFold⟩ := exists_of_bind h
    rw [eq_foldl_of_foldlM hFold, foldl_follow_names]
  rw [key h, key hOther, hParts]

end PresetCompiler.FileTree
