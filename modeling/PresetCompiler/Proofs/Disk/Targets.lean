import PresetCompiler.Proofs.Disk.Writing

/-! What a path leads to when something was written there. What was written in place is found again,
unless a device has taken it (`WroteInPlace.find`). Where a link gave way to a new file, the path
leads to that file or nowhere any more, since the way to it may have gone through the link
(`Replaced.content`). Neither link nor device nor other names of a file matter to a path that stands
alone (`StandsAlone`). -/

namespace PresetCompiler.Disk

variable {disk before after : Disk} {location : Location} {number : Nat} {bytes : ByteArray}
  {path : String}

/-! ### What is found afterwards -/

theorem find_eq_ok_iff (hSlash : Path.endsWithSlash path = false) {node : DiskNode} :
    disk.find path = .ok node ↔ ∃ location, disk.locate true path = .ok location ∧
      disk.node? location = some node := by
  have hSteps : Path.steps path = Path.names path := if_neg (by simp [hSlash])
  rw [find, hSteps]
  constructor
  · intro h
    obtain ⟨location, hLocate, hNode⟩ := exists_of_bind h
    split at hNode
    · rename_i hHere
      cases hNode
      exact ⟨location, hLocate, hHere⟩
    · cases hNode
  · rintro ⟨location, hLocate, hNode⟩
    rw [locate] at hLocate
    rw [hLocate]
    simp [Bind.bind, Except.bind, hNode]

/-- The names of a path end at no symbolic link. -/
def NoLinkAt (disk : Disk) (path : String) : Prop :=
  ∀ location target, disk.locate false path = .ok location →
    disk.node? location ≠ some (.link target)

theorem locate_true_of_false (hLocate : disk.locate false path = .ok location)
    (hNode : ∀ target, disk.node? location ≠ some (.link target)) :
    disk.locate true path = .ok location := by
  rw [locate, locateNames_eq_ok_iff] at hLocate ⊢
  exact ⟨hLocate.1, hLocate.2.to_true hNode⟩

theorem NoLinkAt.locate_iff (h : disk.NoLinkAt path) :
    disk.locate true path = .ok location ↔ disk.locate false path = .ok location := by
  constructor
  · intro hTrue
    obtain ⟨hCheck, hLeads⟩ := locateNames_eq_ok_iff.mp hTrue
    obtain ⟨last, hLast, hSame⟩ := hLeads.exists_upTo
    have hFalse : disk.locate false path = .ok last := locateNames_eq_ok_iff.mpr ⟨hCheck, hLast⟩
    rwa [← hSame fun target => h last target hFalse]
  · intro hFalse
    exact locate_true_of_false hFalse fun target => h location target hFalse

theorem read_of_find (h : disk.find path = .ok (.file number)) :
    disk.read path = .ok (disk.content number) := by
  rw [read, h]
  rfl

theorem WroteAt.sameWays (h : WroteAt location bytes before after) : SameWays before after := by
  cases h with
  | file hNode hPuts => exact hPuts.sameWays (by simp [hNode]) (by simp [hNode])
  | new hNode _ hPuts => exact hPuts.sameWays (by simp [hNode]) (by simp [hNode])
  | device _ hSame => exact hSame.sameWays

/-- What was written in place is found where it was written, unless a device has taken it. -/
theorem WroteInPlace.find (h : WroteInPlace path bytes before after) :
    (∃ number, after.find path = .ok (.file number) ∧ after.content number = bytes) ∨
      before.find path = .ok .device ∧ after.find path = .ok .device := by
  obtain ⟨hSlash, location, hLocate, hAt⟩ := h
  have hAfter : after.locate true path = .ok location :=
    hAt.sameWays.locateNames_iff.mpr hLocate
  cases hAt with
  | @file number _ hPuts =>
    exact .inl ⟨number, (find_eq_ok_iff hSlash).mpr ⟨location, hAfter, by
      rw [hPuts.node, if_pos rfl]⟩, hPuts.bytes⟩
  | @new number _ _ hPuts =>
    exact .inl ⟨number, (find_eq_ok_iff hSlash).mpr ⟨location, hAfter, by
      rw [hPuts.node, if_pos rfl]⟩, hPuts.bytes⟩
  | device hNode hSame =>
    exact .inr ⟨(find_eq_ok_iff hSlash).mpr ⟨location, hLocate, hNode⟩,
      (find_eq_ok_iff hSlash).mpr ⟨location, hAfter, by rw [hSame.node, hNode]⟩⟩

theorem WroteInPlace.content (h : WroteInPlace path bytes before after)
    (hFind : after.find path = .ok (.file number)) : after.content number = bytes := by
  rcases h.find with ⟨found, hFound, hBytes⟩ | ⟨-, hDevice⟩
  · rw [hFound] at hFind
    cases hFind
    exact hBytes
  · rw [hDevice] at hFind
    cases hFind

/-- Where a path leads to a file after a replacement, that is the new one. -/
theorem Replaced.content (h : Replaced path bytes before after)
    (hFind : after.find path = .ok (.file number)) : after.content number = bytes := by
  obtain ⟨hSlash, location, hLocate, -, fresh, -, hPuts⟩ := h
  obtain ⟨found, hFound, hNode⟩ := (find_eq_ok_iff hSlash).mp hFind
  rw [locate, locateNames_eq_ok_iff] at hLocate hFound
  rw [hPuts.place] at hFound
  have hHere : after.node? location = some (.file fresh) := by rw [hPuts.node, if_pos rfl]
  have hSame : found = location := hFound.2.eq_of_put hHere
    (fun other hNe => by rw [hPuts.node, if_neg hNe]) hLocate.2
  rw [hSame, hHere] at hNode
  cases hNode
  exact hPuts.bytes

/-- The path leads to the file that was put in place of what it names, unless that was a symbolic
link: the way to it may have led through the link. -/
theorem Replaced.exists_find (h : Replaced path bytes before after)
    (hLink : before.NoLinkAt path) : ∃ number, after.find path = .ok (.file number) := by
  obtain ⟨hSlash, location, hLocate, hNode, fresh, -, hPuts⟩ := h
  have hWays := hPuts.sameWays hNode fun target => hLink location target hLocate
  exact ⟨fresh, (find_eq_ok_iff hSlash).mpr
    ⟨location, hWays.locateNames_iff.mpr (hLink.locate_iff.mpr hLocate), by
      rw [hPuts.node, if_pos rfl]⟩⟩

theorem Replaced.isOk_write (h : Replaced path bytes before after) (hLink : before.NoLinkAt path) :
    (before.write path bytes).1.isOk = true := by
  obtain ⟨hSlash, location, hLocate, hNode, -⟩ := h
  have hTarget : before.writeTarget path = .ok location := writeTarget_eq_ok_iff.mpr
    ⟨hSlash, hLink.locate_iff.mpr hLocate, hNode, fun target => hLink location target hLocate⟩
  rw [write_eq_ok_iff.mpr ⟨location, hTarget, rfl⟩]
  rfl

/-! ### Paths that stand alone -/

/-- A path ends at no symbolic link, it leads to no device, and a file there has no other name. -/
structure StandsAlone (disk : Disk) (path : String) : Prop where
  noLink : disk.NoLinkAt path
  noDevice : disk.find path ≠ .ok .device
  soleName {location other : Location} {number : Nat} : disk.locate false path = .ok location →
    disk.node? location = some (.file number) → disk.node? other = some (.file number) →
    other = location

theorem standsAlone_of_free (hSlash : Path.endsWithSlash path = false)
    (hLocate : disk.locate false path = .ok location) (hNode : disk.node? location = none) :
    disk.StandsAlone path := by
  have hLink : disk.NoLinkAt path := by
    intro place target hPlace
    cases hLocate.symm.trans hPlace
    simp [hNode]
  refine ⟨hLink, fun hDevice => ?_, fun {place other number} hPlace hFile => ?_⟩
  · obtain ⟨place, hPlace, hFound⟩ := (find_eq_ok_iff hSlash).mp hDevice
    cases hLocate.symm.trans (hLink.locate_iff.mp hPlace)
    exact absurd (hNode.symm.trans hFound) (by simp)
  · cases hLocate.symm.trans hPlace
    exact absurd (hNode.symm.trans hFile) (by simp)

/-- The path names a file with given bytes, and every other file is as it was. -/
def WroteOnly (path : String) (bytes : ByteArray) (before after : Disk) : Prop :=
  ∃ location, before.locate false path = .ok location ∧
    ∀ other, after.fileAt? other = if other = location then some bytes else before.fileAt? other

theorem WroteInPlace.wroteOnly (h : WroteInPlace path bytes before after)
    (hAlone : before.StandsAlone path) : WroteOnly path bytes before after := by
  obtain ⟨hSlash, location, hLocate, hAt⟩ := h
  have hHere := hAlone.noLink.locate_iff.mp hLocate
  refine ⟨location, hHere, ?_⟩
  cases hAt with
  | file hNode hPuts => exact hPuts.fileAt?_eq fun other => hAlone.soleName hHere hNode
  | new _ hNew hPuts => exact hPuts.fileAt?_eq fun other hNode => absurd ⟨other, hNode⟩ hNew
  | device hNode _ =>
    exact absurd ((find_eq_ok_iff hSlash).mpr ⟨location, hLocate, hNode⟩) hAlone.noDevice

theorem Replaced.wroteOnly (h : Replaced path bytes before after) :
    WroteOnly path bytes before after := by
  obtain ⟨-, location, hLocate, -, number, hNew, hPuts⟩ := h
  exact ⟨location, hLocate, hPuts.fileAt?_eq fun other hNode => absurd ⟨other, hNode⟩ hNew⟩

end PresetCompiler.Disk
