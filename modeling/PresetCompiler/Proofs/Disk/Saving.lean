import PresetCompiler.Proofs.Disk.Targets
import PresetCompiler.Proofs.Preset.Saving

/-! Saving presets on a disk. What has become of the disk is stated by what the path leads to
(`Preset.Saved`): a link at its end, other names of the file that stands there and devices are what
the two ways of saving treat differently, and a path that stands alone is saved to in the same way
by both (`Preset.save_allOrNothing`). -/

namespace PresetCompiler

open Script

namespace Disk

/-! ### Writing documents -/

section Write

variable (disk : Disk) (path text : String)

theorem ends_writeInPlace :
    (writeInPlace path text).Ends (Same disk) (fun _ => WroteInPlace path text.toUTF8 disk)
      (Same disk) := by
  have hWrite : (writeFile path text).Ends (Same disk)
      (fun _ => WroteInPlace path text.toUTF8 disk) (Same disk) := by
    refine ⟨fun {between} hSame => ?_⟩
    show Attempt.EndedAs _ _ (between.write path text.toUTF8)
    cases hResult : between.write path text.toUTF8 with
    | mk result after =>
      cases result with
      | ok _ => exact .ok ((wroteInPlace_of_write hResult).of_same hSame)
      | error fault => exact .error (write_eq_error hResult ▸ hSame)
  exact hWrite.mapFault _

/-- A text that is to replace a file is put in place of it or written in place, or everything is as
it was. -/
theorem ends_writeReplacing (policy : Backoff) :
    (writeReplacing policy path text).Ends (· = disk)
      (fun _ after => WroteInPlace path text.toUTF8 disk after ∨
        Replaced path text.toUTF8 disk after) (Same disk) := by
  have hReplace := (tempLaws.ends_replaceAtomically policy path text disk).mapFault Fault.file
  have hWrite := ends_writeInPlace disk path text
  exact (hReplace.mono (fun _ _ => .inr) fun _ h => h).tryCatch fun _ =>
    hWrite.mono (fun _ _ => .inl) fun _ h => h

theorem isOk_writeInPlace :
    ((writeInPlace path text).runOn disk).1.isOk = (disk.write path text.toUTF8).1.isOk := by
  have hWrite : (writeFile path text).runOn disk = disk.write path text.toUTF8 := rfl
  rw [writeInPlace, Attempt.runOn_mapFault, hWrite]
  cases (disk.write path text.toUTF8).1 <;> rfl

theorem isOk_writeReplacing (policy : Backoff) :
    ((writeReplacing policy path text).runOn disk).1.isOk =
      (((replaceAtomically policy path text).runOn disk).1.isOk ||
        (disk.write path text.toUTF8).1.isOk) := by
  have hReplace := (tempLaws.ends_replaceAtomically policy path text disk).endedAs rfl
  rw [writeReplacing, Attempt.runOn_tryCatch, Attempt.runOn_mapFault]
  generalize (replaceAtomically policy path text).runOn disk = replaced at hReplace
  cases hReplace with
  | ok _ => rfl
  | error hSame => exact (isOk_writeInPlace _ path text).trans (hSame.isOk_write path _)

/-- The two ways of writing succeed alike, but that a symbolic link can be replaced wherever it
leads. -/
theorem isOk_writeReplacing_eq_writeInPlace (policy : Backoff)
    (h : disk.NoLinkAt path ∨ ((writeInPlace path text).runOn disk).1.isOk = true) :
    ((writeReplacing policy path text).runOn disk).1.isOk =
      ((writeInPlace path text).runOn disk).1.isOk := by
  rw [isOk_writeInPlace] at h ⊢
  rw [isOk_writeReplacing]
  have hReplace := (tempLaws.ends_replaceAtomically policy path text disk).endedAs rfl
  generalize (replaceAtomically policy path text).runOn disk = replaced at hReplace
  cases hReplace with
  | ok hReplaced => exact (h.elim hReplaced.isOk_write fun hOk => hOk).symm
  | error _ => rfl

end Write

end Disk

namespace Preset

open Disk

theorem ends_makeParent (disk : Disk) (path : String) :
    (makeParent path).Ends (· = disk) (fun _ => disk.AddsDirectories) disk.AddsDirectories := by
  rw [makeParent]
  split
  · refine ⟨?_⟩
    rintro files rfl
    exact .ok (.refl files)
  · have hCreate : (createDirectories (Path.parent path)).Ends (· = disk)
        (fun _ => disk.AddsDirectories) disk.AddsDirectories := by
      refine ⟨?_⟩
      rintro files rfl
      have hAdds : files.AddsDirectories (files.createDirs (Path.parent path)).2 :=
        addsDirectories_createParts files _
      show Attempt.EndedAs _ _ (files.createDirs (Path.parent path))
      generalize files.createDirs (Path.parent path) = ended at hAdds
      obtain ⟨result, after⟩ := ended
      cases result with
      | ok _ => exact .ok hAdds
      | error fault => exact .error hAdds
    exact hCreate.mapFault Fault.file

/-- What saving has made of a disk, which was `ready` when the directories of the file were there.
-/
structure Saved (path : String) (bytes : ByteArray) (atomic : Bool) (disk ready : Disk)
    (ended : Except Fault Unit × Disk) : Prop where
  /-- A failure leaves every file as it was and adds none. -/
  kept (h : ended.1.isOk = false) : disk.AddsDirectories ended.2
  /-- A success writes to where the path leads, or it puts a new file in place of what the path
  names. -/
  wrote (h : ended.1.isOk = true) : ready.WroteInPlace path bytes ended.2 ∨
    atomic = true ∧ ready.Replaced path bytes ended.2
  /-- A file that the path leads to then was written whole. -/
  holds (h : ended.1.isOk = true) {number : Nat} :
    ended.2.find path = .ok (.file number) → ended.2.content number = bytes
  /-- The path leads to a file then, unless a device took the bytes or a link gave way to it. -/
  leads (h : ended.1.isOk = true) : ready.find path ≠ .ok .device →
    atomic = false ∨ ready.NoLinkAt path → ∃ number, ended.2.find path = .ok (.file number)
  /-- Only the file that the path names has changed. -/
  only (h : ended.1.isOk = true) : ready.StandsAlone path →
    ∃ location, ready.locate false path = .ok location ∧ ∀ other,
      ended.2.fileAt? other = if other = location then some bytes else disk.fileAt? other

section Saved

variable {path : String} {bytes : ByteArray} {atomic : Bool} {disk ready after : Disk}

theorem Saved.of_error (h : disk.AddsDirectories after) (fault : Fault) :
    Saved path bytes atomic disk ready (.error fault, after) where
  kept _ := h
  wrote hOk := Bool.noConfusion hOk
  holds hOk := Bool.noConfusion hOk
  leads hOk := Bool.noConfusion hOk
  only hOk := Bool.noConfusion hOk

theorem Saved.of_ok (hReady : disk.AddsDirectories ready)
    (hWrote : ready.WroteInPlace path bytes after ∨
      atomic = true ∧ ready.Replaced path bytes after) :
    Saved path bytes atomic disk ready (.ok (), after) where
  kept hFault := Bool.noConfusion hFault
  wrote _ := hWrote
  holds _ number hFind := hWrote.elim (·.content hFind) (·.2.content hFind)
  leads _ hDevice hLink := by
    rcases hWrote with hInPlace | ⟨rfl, hReplaced⟩
    · rcases hInPlace.find with ⟨number, hFind, -⟩ | ⟨hBefore, -⟩
      · exact ⟨number, hFind⟩
      · exact absurd hBefore hDevice
    · exact hReplaced.exists_find (hLink.resolve_left (by simp))
  only _ hAlone := by
    obtain ⟨location, hLocate, hOnly⟩ : WroteOnly path bytes ready after :=
      hWrote.elim (·.wroteOnly hAlone) (·.2.wroteOnly)
    exact ⟨location, hLocate, fun other => by rw [hOnly, hReady.fileAt?_eq]⟩

end Saved

theorem ends_writeText (path text : String) (atomic : Bool) (ready : Disk) :
    (writeText path text atomic).Ends (· = ready)
      (fun _ after => ready.WroteInPlace path text.toUTF8 after ∨
        atomic = true ∧ ready.Replaced path text.toUTF8 after) (Same ready) := by
  cases atomic with
  | true =>
    exact (ends_writeReplacing ready path text {}).mono
      (fun _ _ h => h.imp_right fun hReplaced => ⟨rfl, hReplaced⟩) fun _ h => h
  | false =>
    refine ⟨?_⟩
    rintro files rfl
    exact ((ends_writeInPlace files path text).mono (fun _ _ => .inl) fun _ h => h).endedAs
      (.refl files)

section Save

variable (preset : Preset) (path : String) (disk : Disk)

theorem saved_save (atomic : Bool) :
    Saved path (preset.render true).toUTF8 atomic disk ((makeParent path).runOn disk).2
      ((preset.save path atomic).runOn disk) := by
  have hParent := (ends_makeParent disk path).endedAs rfl
  rw [save_eq, Attempt.runOn_bind]
  generalize (makeParent path).runOn disk = made at hParent
  cases hParent with
  | error hAdds => exact .of_error hAdds _
  | @ok _ ready hAdds =>
    have hText := (ends_writeText path (preset.render true) atomic ready).endedAs rfl
    dsimp only
    generalize (writeText path (preset.render true) atomic).runOn ready = written at hText
    cases hText with
    | ok hWrote => exact .of_ok hAdds hWrote
    | error hSame => exact .of_error (hAdds.trans hSame.addsDirectories) _

theorem isOk_save (h : ((makeParent path).runOn disk).2.NoLinkAt path ∨
      ((preset.save path false).runOn disk).1.isOk = true) :
    ((preset.save path true).runOn disk).1.isOk =
      ((preset.save path false).runOn disk).1.isOk := by
  rw [save_eq, Attempt.runOn_bind] at h
  rw [save_eq, save_eq, Attempt.runOn_bind, Attempt.runOn_bind]
  generalize (makeParent path).runOn disk = made at h
  obtain ⟨result, ready⟩ := made
  cases result with
  | error fault => rfl
  | ok _ => exact isOk_writeReplacing_eq_writeInPlace ready path (preset.render true) {} h

end Save

theorem runOn_load_of_find {disk : Disk} {path : String} {number : Nat}
    (h : disk.find path = .ok (.file number)) :
    (load path).runOn disk = (.ok (ofBytes (disk.content number)), disk) := by
  refine runOn_load ?_ (read_of_find h)
  show disk.contains path = true
  rw [Disk.contains, h]
  rfl

/-- A disk with a file, a link to it and a device. -/
def linkedDisk : Disk where
  place := []
  entries := [(["games.txt"], .file 1), (["link.txt"], .link "games.txt"), (["null"], .device)]
  content := fun _ => "--old".toUTF8
  held := 0

end Preset

end PresetCompiler
