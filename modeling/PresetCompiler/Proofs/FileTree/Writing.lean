import PresetCompiler.Proofs.FileTree.Nodes

/-! Writing files. A file that is written stands where its path leads, and no other file changes
(`write_eq_ok_iff`). A file that is written beside another and then moved there leaves the same tree
as one written in place (`replace_eq_ok_iff`). Creating directories changes no file
(`addsDirectories_createDirs`). -/

namespace PresetCompiler.FileTree

variable {tree before after : FileTree} {path : String} {location target : Location}
  {bytes : ByteArray}

/-! ### The same files -/

/-- The file at a location, with the time when it was written. -/
def fileAt? (tree : FileTree) (location : Location) : Option (ByteArray × Int) :=
  match tree.node? location with
  | some (.file bytes modified) => some (bytes, modified)
  | _ => none

/-- Two trees have the same files, in the same places. -/
def SameFiles (before after : FileTree) : Prop :=
  ∀ location, after.fileAt? location = before.fileAt? location

/-- Two trees have the same files in the same places, but for one place. -/
def SameFilesBut (target : Location) (before after : FileTree) : Prop :=
  ∀ location, location ≠ target → after.fileAt? location = before.fileAt? location

theorem SameFiles.refl (tree : FileTree) : SameFiles tree tree :=
  fun _ => rfl

theorem SameFiles.trans {between : FileTree} (h : SameFiles before between)
    (h' : SameFiles between after) : SameFiles before after :=
  fun location => (h' location).trans (h location)

theorem SameFiles.trans_but {between : FileTree} (h : SameFiles before between)
    (h' : SameFilesBut target between after) : SameFilesBut target before after :=
  fun location hNe => (h' location hNe).trans (h location)

/-! ### Written in place -/

theorem sameFilesBut_putFile (h : location ≠ []) (bytes : ByteArray) :
    SameFilesBut location tree (tree.putFile location bytes) := by
  intro other hNe
  rw [fileAt?, fileAt?, node?_putFile h, if_neg hNe]

/-- A file that is written is no directory, so paths lead where they led before. -/
theorem locate_putFile {other : Location} (h : location ≠ [])
    (hNode : tree.node? location ≠ some .directory) (hLocate : tree.locate path = .ok other)
    (bytes : ByteArray) : (tree.putFile location bytes).locate path = .ok other := by
  have hKept : Shrinks (tree.putFile location bytes) tree := by
    refine ⟨rfl, fun place hPlace => ?_⟩
    have hNe : place ≠ location := fun hSame => hNode (hSame ▸ hPlace)
    rwa [node?_putFile h, if_neg hNe]
  exact hKept.locate hLocate

theorem write_eq_ok_iff :
    tree.write path bytes = .ok after ↔ Path.endsWithSlash path = false ∧
      ∃ location, location ≠ [] ∧ tree.locate path = .ok location ∧
        tree.node? location ≠ some .directory ∧ after = tree.putFile location bytes := by
  constructor
  · intro h
    refine ⟨?_, exists_of_write h⟩
    rw [write] at h
    split at h
    · obtain ⟨_, -, hFault⟩ := exists_of_bind h
      cases hFault
    · rename_i hSlash
      exact Bool.eq_false_iff.mpr hSlash
  · rintro ⟨hSlash, location, -, hLocate, hNode, rfl⟩
    cases hHere : tree.node? location with
    | none => simp [write, hSlash, hLocate, hHere, Bind.bind, Except.bind]
    | some node =>
      cases node with
      | file old modified => simp [write, hSlash, hLocate, hHere, Bind.bind, Except.bind]
      | directory => contradiction

/-- A later tree in which a path names a file with the given content, and no other file has
changed. -/
structure Wrote (path : String) (bytes : ByteArray) (before after : FileTree) : Prop where
  read : after.read path = .ok bytes
  others : ∃ target, after.locate path = .ok target ∧ SameFilesBut target before after

theorem Wrote.of_sameFiles {between : FileTree} (h : SameFiles before between)
    (h' : Wrote path bytes between after) : Wrote path bytes before after :=
  ⟨h'.read, h'.others.imp fun _ hTarget => ⟨hTarget.1, h.trans_but hTarget.2⟩⟩

theorem wrote_of_write (h : tree.write path bytes = .ok after) : Wrote path bytes tree after := by
  obtain ⟨hSlash, location, hRoot, hLocate, hNode, rfl⟩ := write_eq_ok_iff.mp h
  have hAfter := locate_putFile hRoot hNode hLocate bytes
  have hFind : (tree.putFile location bytes).find path = .ok (.file bytes tree.clock) := by
    refine find_eq_file_iff.mpr ⟨hSlash, location, hAfter, ?_⟩
    rw [node?_putFile hRoot, if_pos rfl]
  refine ⟨?_, location, hAfter, sameFilesBut_putFile hRoot bytes⟩
  rw [FileTree.read, hFind]
  rfl

/-- Where a path that names nothing is written to, nothing stands. -/
theorem node?_eq_none_of_contains (h : tree.contains path = false)
    (hSlash : Path.endsWithSlash path = false) (hLocate : tree.locate path = .ok location) :
    tree.node? location = none := by
  rw [contains, find, hLocate] at h
  cases hNode : tree.node? location with
  | none => rfl
  | some node => cases node <;> simp [Bind.bind, Except.bind, hNode, hSlash, Except.isOk,
      Except.toBool] at h

/-! ### Written beside and moved -/

/-- A later tree with a temporary file, where nothing stood before, and the same otherwise. -/
structure Beside (temp : Location) (bytes : ByteArray) (before now : FileTree) : Prop where
  place : now.place = before.place
  free : before.node? temp = none
  node : ∃ time, ∀ location, now.node? location =
    if location = temp then some (.file bytes time) else before.node? location

theorem ne_nil_of_node?_eq_none (h : tree.node? location = none) : location ≠ [] := by
  rintro rfl
  cases h

theorem beside_putFile (h : tree.node? location = none) (bytes : ByteArray) :
    Beside location bytes tree (tree.putFile location bytes) :=
  ⟨rfl, h, tree.clock, node?_putFile (ne_nil_of_node?_eq_none h) bytes⟩

/-- A temporary file is put where nothing stands. -/
theorem node?_tempPlace {directory : String} {temp : Location}
    (h : tree.tempPlace directory = .ok temp) : tree.node? temp = none := by
  obtain ⟨here, -, hRest⟩ := exists_of_bind h
  split at hRest
  · cases hRest
  · rename_i name hFree
    obtain ⟨_, -, hEnter⟩ := exists_of_bind hRest
    have hTaken := not_taken_of_freeTempName? hFree
    rw [nameTaken, hEnter] at hTaken
    simpa using hTaken

namespace Beside

variable {temp : Location} {now : FileTree} {old : ByteArray}

theorem putFile (h : Beside temp old before now) (bytes : ByteArray) :
    Beside temp bytes before (now.putFile temp bytes) := by
  obtain ⟨time, hNode⟩ := h.node
  refine ⟨h.place, h.free, now.clock, fun location => ?_⟩
  rw [node?_putFile (ne_nil_of_node?_eq_none h.free), hNode]
  split <;> rfl

/-- Without the temporary file the tree is what it was. -/
theorem sameFiles_unlink (h : Beside temp bytes before now) :
    SameFiles before (now.unlink temp) := by
  obtain ⟨time, hNode⟩ := h.node
  intro location
  rw [fileAt?, fileAt?, node?_unlink (ne_nil_of_node?_eq_none h.free), hNode]
  by_cases hTemp : location = temp
  · rw [if_pos hTemp, hTemp, h.free]
  · rw [if_neg hTemp, if_neg hTemp]

theorem node?_ne_directory (h : Beside temp bytes before now) :
    now.node? temp ≠ some .directory := by
  obtain ⟨time, hNode⟩ := h.node
  rw [hNode, if_pos rfl]
  simp

end Beside

theorem moveTarget_eq_ok (h : tree.moveTarget path = .ok target) :
    Path.endsWithSlash path = false ∧ tree.locate path = .ok target ∧
      tree.node? target ≠ some .directory := by
  obtain ⟨_, -, hRest⟩ := exists_of_bind h
  split at hRest
  · cases hRest
  · obtain ⟨location, hLocate, hTarget⟩ := exists_of_bind hRest
    split at hTarget
    · cases hTarget
    · rename_i hSlash
      split at hTarget
      · cases hTarget
      · rename_i hNode
        cases hTarget
        exact ⟨Bool.eq_false_iff.mpr hSlash, hLocate, hNode⟩

/-- A temporary file that is moved to a path is the file that the path names, and no other file has
changed. -/
theorem wrote_of_move {temp : Location} {now : FileTree} (h : Beside temp bytes before now)
    (hMove : now.move temp path = .ok after) : Wrote path bytes before after := by
  obtain ⟨target, hTarget, hSet⟩ := exists_of_bind hMove
  obtain ⟨hSlash, hLocate, hDirectory⟩ := moveTarget_eq_ok hTarget
  have hRoot : target ≠ [] := fun hNil => hDirectory (hNil ▸ rfl)
  have hTemp : temp ≠ [] := ne_nil_of_node?_eq_none h.free
  obtain ⟨time, hNode⟩ := h.node
  rw [hNode, if_pos rfl] at hSet
  obtain rfl : (now.unlink temp).set target (.file bytes time) = after := Except.ok.inj hSet
  have hAfter (location : Location) :
      ((now.unlink temp).set target (.file bytes time)).node? location =
        if location = target then some (.file bytes time)
        else if location = temp then none else before.node? location := by
    rw [node?_set _ _ hRoot, node?_unlink hTemp, hNode]
    by_cases hSame : location = temp
    · rw [if_pos hSame, if_pos hSame]
    · rw [if_neg hSame, if_neg hSame, if_neg hSame]
  -- The target was no directory, so that all paths lead where they led.
  have hKept : Shrinks ((now.unlink temp).set target (.file bytes time)) now := by
    refine ⟨rfl, fun location hHere => ?_⟩
    have hNe : location ≠ target := fun hSame => hDirectory (hSame ▸ hHere)
    have hNeTemp : location ≠ temp := fun hSame => h.node?_ne_directory (hSame ▸ hHere)
    rw [hNode, if_neg hNeTemp] at hHere
    rwa [hAfter, if_neg hNe, if_neg hNeTemp]
  have hLocateAfter := hKept.locate hLocate
  have hFind : ((now.unlink temp).set target (.file bytes time)).find path =
      .ok (.file bytes time) :=
    find_eq_file_iff.mpr ⟨hSlash, target, hLocateAfter, by rw [hAfter, if_pos rfl]⟩
  refine ⟨by rw [FileTree.read, hFind]; rfl, target, hLocateAfter, fun location hNe => ?_⟩
  rw [fileAt?, fileAt?, hAfter, if_neg hNe]
  by_cases hSame : location = temp
  · rw [if_pos hSame, hSame, h.free]
  · rw [if_neg hSame]

/-! ### Directories -/

/-- A later tree in which directories are new and nothing else has changed. -/
structure AddsDirectories (before after : FileTree) : Prop where
  place : after.place = before.place
  node : ∀ location, after.node? location = before.node? location ∨
    before.node? location = none ∧ after.node? location = some .directory

namespace AddsDirectories

theorem refl (tree : FileTree) : AddsDirectories tree tree :=
  ⟨rfl, fun _ => .inl rfl⟩

theorem trans {between : FileTree} (h : AddsDirectories before between)
    (h' : AddsDirectories between after) : AddsDirectories before after := by
  refine ⟨h'.place.trans h.place, fun location => ?_⟩
  rcases h'.node location with hSame | ⟨hNone, hNew⟩
  · rw [hSame]
    exact h.node location
  · rcases h.node location with hSame | ⟨-, hNew'⟩
    · exact .inr ⟨hSame.symm.trans hNone, hNew⟩
    · rw [hNew'] at hNone
      cases hNone

theorem set (h : tree.node? location = none) :
    AddsDirectories tree (tree.set location .directory) := by
  have hRoot : location ≠ [] := by
    rintro rfl
    cases h
  refine ⟨rfl, fun other => ?_⟩
  rw [node?_set tree .directory hRoot]
  by_cases hSame : other = location
  · subst hSame
    exact .inr ⟨h, if_pos rfl⟩
  · exact .inl (if_neg hSame)

theorem sameFiles (h : AddsDirectories before after) : SameFiles before after := by
  intro location
  rcases h.node location with hSame | ⟨hNone, hNew⟩
  · rw [fileAt?, fileAt?, hSame]
  · rw [fileAt?, fileAt?, hNone, hNew]

end AddsDirectories

theorem addsDirectories_createDir (h : tree.createDir path = .ok after) :
    AddsDirectories tree after := by
  obtain ⟨location, -, hSet⟩ := exists_of_bind h
  split at hSet
  · cases hSet
  · rename_i hNone
    rw [← Except.ok.inj hSet]
    exact .set hNone

theorem addsDirectories_createMissing (tree : FileTree) (here : Location) (names : List String) :
    AddsDirectories tree (tree.createMissing here names).2 := by
  induction names generalizing tree here with
  | nil => exact .refl tree
  | cons name rest ih =>
    rw [createMissing]
    split
    · exact .refl tree
    · split
      · exact ih _ _
      · exact .refl tree
      · rename_i hNone
        exact (AddsDirectories.set hNone).trans (ih _ _)

/-- Directories that are created change no file, even when not all of them can be. -/
theorem addsDirectories_createDirs (tree : FileTree) (path : String) :
    AddsDirectories tree (tree.createDirs path).2 := by
  rw [createDirs]
  split
  · rename_i hCreate
    exact addsDirectories_createDir hCreate
  · exact addsDirectories_createMissing _ _ _
  · exact .refl tree

end PresetCompiler.FileTree
