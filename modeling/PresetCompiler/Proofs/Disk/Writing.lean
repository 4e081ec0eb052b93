import PresetCompiler.Proofs.Disk.Paths
import PresetCompiler.Proofs.Replacement

/-! Writing on a disk. What is written in place goes through links to the file that the path leads
to (`wroteInPlace_of_write`), and what is moved into place leaves that file alone and takes the
place of the link (`replaced_of_moveTemp`). A temporary file that is removed has changed nothing
(`Beside.same_unlink`). -/

namespace PresetCompiler.Disk

variable {disk before between now after : Disk} {location : Location} {number : Nat}
  {bytes : ByteArray} {path : String}

/-! ### Nodes -/

theorem ne_nil_of_node?_ne_directory (h : disk.node? location ≠ some .directory) :
    location ≠ [] := by
  rintro rfl
  exact h rfl

theorem ne_nil_of_node?_eq_none (h : disk.node? location = none) : location ≠ [] := by
  rintro rfl
  cases h

theorem node?_set (h : location ≠ []) (node : DiskNode) (other : Location) :
    (disk.set location node).node? other =
      if other = location then some node else disk.node? other := by
  by_cases hRoot : other = []
  · subst hRoot
    simp [node?, Ne.symm h]
  · simp [node?, set, hRoot, lookup_setEntry]

theorem node?_unlink (h : location ≠ []) (other : Location) :
    (disk.unlink location).node? other = if other = location then none else disk.node? other := by
  by_cases hRoot : other = []
  · subst hRoot
    simp [node?, Ne.symm h]
  · simp [node?, unlink, hRoot, lookup_dropEntry]

/-- A file with a number has a name. -/
def Uses (disk : Disk) (number : Nat) : Prop :=
  ∃ location, disk.node? location = some (.file number)

theorem not_uses_newNumber (disk : Disk) : ¬disk.Uses disk.newNumber := by
  rintro ⟨location, hNode⟩
  rw [node?] at hNode
  split at hNode
  · cases hNode
  · obtain ⟨front, back, hEntries, -⟩ := List.lookup_eq_some_iff.mp hNode
    have hMem : disk.newNumber ∈ disk.entries.filterMap fun entry => entry.2.number? :=
      List.mem_filterMap.mpr ⟨_, hEntries ▸ List.mem_append_right front List.mem_cons_self, rfl⟩
    exact absurd (List.le_max?_getD_of_mem hMem (k := 0)) (Nat.not_succ_le_self _)

/-- The content of the file at a location. -/
def fileAt? (disk : Disk) (location : Location) : Option ByteArray :=
  match disk.node? location with
  | some (.file number) => some (disk.content number)
  | _ => none

/-! ### Disks that agree -/

/-- Everything stands where it stood, and every file has the content that it had. -/
structure Same (before after : Disk) : Prop where
  place : after.place = before.place
  node (location : Location) : after.node? location = before.node? location
  content {number : Nat} (h : before.Uses number) : after.content number = before.content number

namespace Same

theorem refl (disk : Disk) : Same disk disk :=
  ⟨rfl, fun _ => rfl, fun _ => rfl⟩

theorem uses_iff (h : Same before after) : after.Uses number ↔ before.Uses number :=
  exists_congr fun location => by rw [h.node]

theorem trans (h : Same before between) (h' : Same between after) : Same before after :=
  ⟨h'.place.trans h.place, fun location => (h'.node location).trans (h.node location),
    fun hUses => (h'.content (h.uses_iff.mpr hUses)).trans (h.content hUses)⟩

theorem sameWays (h : Same before after) : SameWays before after :=
  ⟨h.place, fun location => by rw [h.node], fun location path => by rw [h.node]⟩

end Same

/-- A file with a number and a content stands at a location, and otherwise nothing has changed. -/
structure Puts (location : Location) (number : Nat) (bytes : ByteArray) (before after : Disk) :
    Prop where
  place : after.place = before.place
  node (other : Location) :
    after.node? other = if other = location then some (.file number) else before.node? other
  bytes : after.content number = bytes
  content {other : Nat} (hNe : other ≠ number) (h : before.Uses other) :
    after.content other = before.content other

namespace Puts

theorem of_same (h : Same before between) (hPuts : Puts location number bytes between after) :
    Puts location number bytes before after where
  place := hPuts.place.trans h.place
  node other := by rw [hPuts.node, h.node]
  bytes := hPuts.bytes
  content hNe hUses := (hPuts.content hNe (h.uses_iff.mpr hUses)).trans (h.content hUses)

/-- Paths lead where they led when no directory and no link gave way to the file. -/
theorem sameWays (h : Puts location number bytes before after)
    (hDirectory : before.node? location ≠ some .directory)
    (hLink : ∀ target, before.node? location ≠ some (.link target)) : SameWays before after := by
  refine ⟨h.place, fun other => ?_, fun other target => ?_⟩
  all_goals
    rw [h.node]
    by_cases hSame : other = location
    · simp [hSame, hDirectory, hLink]
    · rw [if_neg hSame]

theorem fileAt?_eq (h : Puts location number bytes before after)
    (hSole : ∀ other, before.node? other = some (.file number) → other = location)
    (other : Location) :
    after.fileAt? other = if other = location then some bytes else before.fileAt? other := by
  rw [fileAt?, fileAt?, h.node]
  by_cases hSame : other = location
  · rw [if_pos hSame, if_pos hSame]
    exact congrArg some h.bytes
  · rw [if_neg hSame, if_neg hSame]
    cases hNode : before.node? other with
    | none => rfl
    | some node =>
      cases node with
      | file n =>
        have hNe : n ≠ number := fun hNumber => hSame (hSole other (hNumber ▸ hNode))
        exact congrArg some (h.content hNe ⟨other, hNode⟩)
      | directory => rfl
      | link _ => rfl
      | device => rfl

end Puts

theorem puts_putFile (hRoot : location ≠ []) (bytes : ByteArray) :
    Puts location disk.newNumber bytes disk (disk.putFile location bytes) where
  place := rfl
  node other := node?_set hRoot _ other
  bytes := if_pos rfl
  content hNe _ := if_neg hNe

theorem puts_setContent (h : disk.node? location = some (.file number)) (bytes : ByteArray) :
    Puts location number bytes disk (disk.setContent number bytes) where
  place := rfl
  node other := by
    by_cases hSame : other = location
    · rw [if_pos hSame, hSame]
      exact h
    · rw [if_neg hSame]
      rfl
  bytes := if_pos rfl
  content hNe _ := if_neg hNe

/-! ### In place -/

/-- Bytes were written to what stands at a location, or to a new file where nothing stands. A device
has taken them and is what it was. -/
inductive WroteAt (location : Location) (bytes : ByteArray) (before after : Disk) : Prop
  | file {number : Nat} (hNode : before.node? location = some (.file number))
      (hPuts : Puts location number bytes before after)
  | new {number : Nat} (hNode : before.node? location = none) (hNew : ¬before.Uses number)
      (hPuts : Puts location number bytes before after)
  | device (hNode : before.node? location = some .device) (hSame : Same before after)

/-- Bytes were written to where a path leads, through all links. -/
def WroteInPlace (path : String) (bytes : ByteArray) (before after : Disk) : Prop :=
  Path.endsWithSlash path = false ∧ ∃ location, before.locate true path = .ok location ∧
    WroteAt location bytes before after

theorem writeTarget_eq_ok_iff :
    disk.writeTarget path = .ok location ↔ Path.endsWithSlash path = false ∧
      disk.locate true path = .ok location ∧ disk.node? location ≠ some .directory ∧
      ∀ target, disk.node? location ≠ some (.link target) := by
  rw [writeTarget]
  constructor
  · intro h
    split at h
    · obtain ⟨_, -, hFault⟩ := exists_of_bind h
      cases hFault
    · rename_i hSlash
      obtain ⟨target, hLocate, hTarget⟩ := exists_of_bind h
      split at hTarget
      · cases hTarget
      · cases hTarget
      · rename_i hDirectory hLink
        cases hTarget
        exact ⟨Bool.eq_false_iff.mpr hSlash, hLocate, hDirectory, hLink⟩
  · rintro ⟨hSlash, hLocate, hDirectory, hLink⟩
    rw [if_neg (by simp [hSlash]), hLocate]
    simp only [Bind.bind, Except.bind]

theorem write_eq_ok_iff :
    disk.write path bytes = (.ok (), after) ↔
      ∃ location, disk.writeTarget path = .ok location ∧ after = disk.writeAt location bytes := by
  rw [write]
  cases disk.writeTarget path with
  | error fault => simp
  | ok location => simp [eq_comm]

theorem write_eq_error {fault : FileFault} (h : disk.write path bytes = (.error fault, after)) :
    after = disk := by
  rw [write] at h
  split at h
  · cases h
  · exact (Prod.mk.inj h).2.symm

theorem wroteInPlace_of_write (h : disk.write path bytes = (.ok (), after)) :
    WroteInPlace path bytes disk after := by
  obtain ⟨location, hTarget, rfl⟩ := write_eq_ok_iff.mp h
  obtain ⟨hSlash, hLocate, hDirectory, hLink⟩ := writeTarget_eq_ok_iff.mp hTarget
  refine ⟨hSlash, location, hLocate, ?_⟩
  rw [writeAt]
  cases hNode : disk.node? location with
  | none =>
    exact .new hNode disk.not_uses_newNumber (puts_putFile (ne_nil_of_node?_eq_none hNode) bytes)
  | some node =>
    cases node with
    | file number => exact .file hNode (puts_setContent hNode bytes)
    | directory => exact absurd hNode hDirectory
    | link target => exact absurd hNode (hLink target)
    | device => exact .device hNode (.refl disk)

theorem WroteInPlace.of_same (h : Same before between)
    (hWrote : WroteInPlace path bytes between after) : WroteInPlace path bytes before after := by
  obtain ⟨hSlash, location, hLocate, hAt⟩ := hWrote
  refine ⟨hSlash, location, h.sameWays.locateNames_iff.mp hLocate, ?_⟩
  cases hAt with
  | file hNode hPuts => exact .file (h.node _ ▸ hNode) (hPuts.of_same h)
  | new hNode hNew hPuts =>
    exact .new (h.node _ ▸ hNode) (fun hUses => hNew (h.uses_iff.mpr hUses)) (hPuts.of_same h)
  | device hNode hSame => exact .device (h.node _ ▸ hNode) (h.trans hSame)

theorem Same.isOk_write (h : Same before after) (path : String) (bytes : ByteArray) :
    (after.write path bytes).1.isOk = (before.write path bytes).1.isOk := by
  have hTarget (location : Location) :
      after.writeTarget path = .ok location ↔ before.writeTarget path = .ok location := by
    rw [writeTarget_eq_ok_iff, writeTarget_eq_ok_iff, locate, locate, h.sameWays.locateNames_iff,
      h.node]
  rw [write, write]
  cases hAfter : after.writeTarget path with
  | ok location =>
    rw [(hTarget location).mp hAfter]
  | error fault =>
    cases hBefore : before.writeTarget path with
    | ok location =>
      rw [(hTarget location).mpr hBefore] at hAfter
      cases hAfter
    | error _ => rfl

/-! ### Temporary files -/

/-- There is a temporary file, which is no other name of a file, where nothing stood before. -/
structure Beside (temp : Location) (bytes : ByteArray) (before now : Disk) : Prop where
  free : before.node? temp = none
  puts : ∃ number, ¬before.Uses number ∧ Puts temp number bytes before now

theorem node?_tempPlace {directory : String} {temp : Location}
    (h : disk.tempPlace directory = .ok temp) : disk.node? temp = none := by
  obtain ⟨here, -, hRest⟩ := exists_of_bind h
  split at hRest
  · cases hRest
  · rename_i name hFree
    obtain ⟨_, -, hEnter⟩ := exists_of_bind hRest
    have hTaken := not_taken_of_freeTempName? hFree
    rw [nameTaken, hEnter] at hTaken
    simpa using hTaken

section Beside

variable {temp : Location} {old : ByteArray}

theorem beside_putFile (h : disk.node? temp = none) (bytes : ByteArray) :
    Beside temp bytes disk (disk.putFile temp bytes) :=
  ⟨h, disk.newNumber, disk.not_uses_newNumber,
    puts_putFile (ne_nil_of_node?_eq_none h) bytes⟩

namespace Beside

theorem setContent (h : Beside temp old before now) (hNode : now.node? temp = some (.file number))
    (bytes : ByteArray) : Beside temp bytes before (now.setContent number bytes) := by
  obtain ⟨fresh, hFresh, hPuts⟩ := h.puts
  rw [hPuts.node, if_pos rfl] at hNode
  cases hNode
  exact ⟨h.free, number, hFresh, hPuts.place, hPuts.node, if_pos rfl,
    fun hNe hUses => (if_neg hNe).trans (hPuts.content hNe hUses)⟩

theorem setHeld (h : Beside temp bytes before now) (held : Nat) :
    Beside temp bytes before { now with held } := by
  obtain ⟨fresh, hFresh, hPuts⟩ := h.puts
  exact ⟨h.free, fresh, hFresh, hPuts.place, hPuts.node, hPuts.bytes, hPuts.content⟩

/-- Without the temporary file the disk is what it was. -/
theorem same_unlink (h : Beside temp bytes before now) : Same before (now.unlink temp) := by
  obtain ⟨fresh, hFresh, hPuts⟩ := h.puts
  refine ⟨hPuts.place, fun location => ?_, fun hUses => hPuts.content ?_ hUses⟩
  · rw [node?_unlink (ne_nil_of_node?_eq_none h.free), hPuts.node]
    by_cases hTemp : location = temp
    · rw [if_pos hTemp, hTemp, h.free]
    · rw [if_neg hTemp, if_neg hTemp]
  · rintro rfl
    exact hFresh hUses

/-- A temporary file is in nobody's way. -/
theorem sameWays (h : Beside temp bytes before now) : SameWays before now := by
  obtain ⟨fresh, -, hPuts⟩ := h.puts
  exact hPuts.sameWays (by simp [h.free]) (by simp [h.free])

end Beside

end Beside

/-! ### Into place -/

/-- A new file was put in place of what a path names. A link there was not followed. -/
def Replaced (path : String) (bytes : ByteArray) (before after : Disk) : Prop :=
  Path.endsWithSlash path = false ∧ ∃ location, before.locate false path = .ok location ∧
    before.node? location ≠ some .directory ∧
    ∃ number, ¬before.Uses number ∧ Puts location number bytes before after

theorem moveTarget_eq_ok_iff :
    disk.moveTarget path = .ok location ↔ (∃ parent, disk.locateParent path = .ok parent) ∧
      Path.endsInName path = true ∧ Path.endsWithSlash path = false ∧
      disk.locate false path = .ok location ∧ disk.node? location ≠ some .directory := by
  rw [moveTarget]
  constructor
  · intro h
    obtain ⟨parent, hParent, hRest⟩ := exists_of_bind h
    split at hRest
    · cases hRest
    · rename_i hName
      obtain ⟨target, hLocate, hTarget⟩ := exists_of_bind hRest
      split at hTarget
      · cases hTarget
      · rename_i hSlash
        split at hTarget
        · cases hTarget
        · rename_i hNode
          cases hTarget
          exact ⟨⟨parent, hParent⟩, by simpa using hName, Bool.eq_false_iff.mpr hSlash, hLocate,
            hNode⟩
  · rintro ⟨⟨parent, hParent⟩, hName, hSlash, hLocate, hNode⟩
    simp [hParent, hName, hSlash, hLocate, hNode, Bind.bind, Except.bind]

theorem replaced_of_moveTemp {temp : Location} (h : Beside temp bytes before now)
    (hMove : now.moveTemp temp path = (.ok (), after)) : Replaced path bytes before after := by
  obtain ⟨fresh, hFresh, hPuts⟩ := h.puts
  have hTempNode : now.node? temp = some (.file fresh) := by rw [hPuts.node, if_pos rfl]
  have hTempRoot : temp ≠ [] := ne_nil_of_node?_eq_none h.free
  rw [moveTemp, hTempNode] at hMove
  cases hTarget : now.moveTarget path with
  | error fault => rw [hTarget] at hMove; cases hMove
  | ok target =>
    rw [hTarget] at hMove
    cases hHeld : now.held with
    | succ held => rw [hHeld] at hMove; cases hMove
    | zero =>
      rw [hHeld] at hMove
      cases hMove
      obtain ⟨-, -, hSlash, hLocate, hNode⟩ := moveTarget_eq_ok_iff.mp hTarget
      have hRoot := ne_nil_of_node?_ne_directory hNode
      refine ⟨hSlash, target, h.sameWays.locateNames_iff.mp hLocate,
        fun hDirectory => hNode ((h.sameWays.directory target).mpr hDirectory), fresh, hFresh,
        hPuts.place, fun other => ?_, hPuts.bytes, hPuts.content⟩
      rw [node?_set hRoot, node?_unlink hTempRoot, hPuts.node]
      by_cases hTemp : other = temp
      · rw [if_pos hTemp, hTemp, h.free]
      · rw [if_neg hTemp, if_neg hTemp]

/-- A disk keeps a temporary file apart from everything else, until it is moved into place or
removed. -/
theorem tempLaws : TempLaws Disk Same Beside Replaced where
  create {before after directory temp} h := by
    change before.createTemp directory = _ at h
    rw [createTemp] at h
    split at h <;> cases h
    exact beside_putFile (node?_tempPlace ‹_›) .empty
  create_error {before after directory fault} h := by
    change before.createTemp directory = _ at h
    rw [createTemp] at h
    split at h <;> cases h
    exact .refl before
  write {_ now _ temp _ bytes} h hWrite := by
    change now.writeTemp temp bytes = _ at hWrite
    rw [writeTemp] at hWrite
    split at hWrite <;> cases hWrite
    exact h.setContent ‹_› bytes
  write_error {_ now _ temp old bytes _} h hWrite := by
    change now.writeTemp temp bytes = _ at hWrite
    rw [writeTemp] at hWrite
    split at hWrite <;> cases hWrite
    exact ⟨old, h⟩
  sync h := h
  move h hMove := replaced_of_moveTemp h hMove
  move_error {_ now _ temp _ path _} h hMove := by
    change now.moveTemp temp path = _ at hMove
    rw [moveTemp] at hMove
    split at hMove <;> cases hMove
    · exact h
    · exact h.setHeld _
    · exact h
  remove h := h.same_unlink

/-! ### Directories -/

/-- Directories are new, and nothing else has changed. -/
structure AddsDirectories (before after : Disk) : Prop where
  place : after.place = before.place
  node (location : Location) : after.node? location = before.node? location ∨
    before.node? location = none ∧ after.node? location = some .directory
  content {number : Nat} (h : before.Uses number) : after.content number = before.content number

theorem Same.addsDirectories (h : Same before after) : AddsDirectories before after :=
  ⟨h.place, fun location => .inl (h.node location), h.content⟩

namespace AddsDirectories

theorem refl (disk : Disk) : AddsDirectories disk disk :=
  (Same.refl disk).addsDirectories

theorem node?_eq_file (h : AddsDirectories before after)
    (hNode : before.node? location = some (.file number)) :
    after.node? location = some (.file number) := by
  rcases h.node location with hSame | ⟨hNone, -⟩
  · rw [hSame, hNode]
  · rw [hNone] at hNode
    cases hNode

theorem trans (h : AddsDirectories before between) (h' : AddsDirectories between after) :
    AddsDirectories before after := by
  refine ⟨h'.place.trans h.place, fun location => ?_, fun ⟨place, hNode⟩ => ?_⟩
  · rcases h'.node location with hSame | ⟨hNone, hNew⟩
    · rw [hSame]
      exact h.node location
    · rcases h.node location with hSame | ⟨-, hNew'⟩
      · exact .inr ⟨hSame.symm.trans hNone, hNew⟩
      · rw [hNew'] at hNone
        cases hNone
  · exact (h'.content ⟨place, h.node?_eq_file hNode⟩).trans (h.content ⟨place, hNode⟩)

theorem set (h : disk.node? location = none) :
    AddsDirectories disk (disk.set location .directory) := by
  refine ⟨rfl, fun other => ?_, fun _ => rfl⟩
  rw [node?_set (ne_nil_of_node?_eq_none h)]
  by_cases hSame : other = location
  · subst hSame
    exact .inr ⟨h, if_pos rfl⟩
  · exact .inl (if_neg hSame)

/-- Every file is where it was and has its content, and none is new. -/
theorem fileAt?_eq (h : AddsDirectories before after) (location : Location) :
    after.fileAt? location = before.fileAt? location := by
  rcases h.node location with hSame | ⟨hNone, hNew⟩
  · rw [fileAt?, fileAt?, hSame]
    cases hNode : before.node? location with
    | none => rfl
    | some node =>
      cases node with
      | file number => exact congrArg some (h.content ⟨location, hNode⟩)
      | directory => rfl
      | link _ => rfl
      | device => rfl
  · rw [fileAt?, fileAt?, hNone, hNew]

end AddsDirectories

theorem addsDirectories_createDir (h : disk.createDir path = .ok after) :
    AddsDirectories disk after := by
  obtain ⟨location, -, hSet⟩ := exists_of_bind h
  split at hSet
  · cases hSet
  · rename_i hNone
    cases hSet
    exact .set hNone

/-- Directories that are created change nothing else, even when not all of them can be. -/
theorem addsDirectories_createParts (disk : Disk) (parts : List String) :
    AddsDirectories disk (disk.createParts parts).2 := by
  induction parts generalizing disk with
  | nil => exact .refl disk
  | cons name above ih =>
    have hAbove := ih disk
    rw [createParts]
    split
    · exact addsDirectories_createDir ‹_›
    · generalize disk.createParts above = reached at hAbove
      obtain ⟨result, between⟩ := reached
      cases result with
      | error fault => exact hAbove
      | ok _ =>
        dsimp only
        split
        · exact hAbove.trans (addsDirectories_createDir ‹_›)
        · exact hAbove
    · exact .refl disk

end PresetCompiler.Disk
