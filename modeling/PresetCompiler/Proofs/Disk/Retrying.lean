import PresetCompiler.Proofs.Disk.Writing

/-! Moves that are tried again. A target that another program holds open keeps a number of moves
from succeeding. They are tried again until the program has let go or no attempt is left
(`runOn_persistRetrying`), so that a replacement succeeds when its policy allows more attempts than
there are moves to fail (`isOk_replaceAtomically_iff`). -/

namespace PresetCompiler.Disk

open Script Attempt

variable {disk before after : Disk} {temp target : Location} {node : DiskNode} {path : String}

/-- The disk when some moves have failed because the target was held open. -/
def waited (disk : Disk) (moves : Nat) : Disk :=
  { disk with held := disk.held - moves }

@[simp] theorem waited_zero (disk : Disk) : disk.waited 0 = disk := rfl

theorem waited_waited (disk : Disk) (moves later : Nat) :
    (disk.waited moves).waited later = disk.waited (moves + later) := by
  simp only [waited, Nat.sub_sub]

theorem sameWays_waited (disk : Disk) (moves : Nat) : SameWays disk (disk.waited moves) :=
  ⟨rfl, fun _ => Iff.rfl, fun _ _ => Iff.rfl⟩

theorem SameWays.moveTarget_iff (h : SameWays before after) :
    after.moveTarget path = .ok target ↔ before.moveTarget path = .ok target := by
  simp only [moveTarget_eq_ok_iff, locateParent, locate, h.locateNames_iff, ne_eq, h.directory]

section Moves

variable (hTarget : disk.moveTarget path = .ok target) (hNode : disk.node? temp = some node)
include hTarget hNode

theorem runOn_moveTempFile_eq :
    (moveTempFile temp path).runOn disk =
      if disk.held = 0 then (.ok (), (disk.unlink temp).set target node)
      else (.error .busy, disk.waited 1) := by
  show disk.moveTemp temp path = _
  rw [moveTemp, hTarget, hNode, waited]
  cases disk.held <;> rfl

/-- A move succeeds within as many retries as there are moves to fail. -/
theorem runOn_persistRetrying (policy : Backoff) (retries : Nat) (attempt : UInt32) :
    (persistRetrying policy temp path retries attempt).runOn disk =
      if disk.held ≤ retries then
        (.ok (), ((disk.waited disk.held).unlink temp).set target node)
      else (.error .busy, disk.waited (retries + 1)) := by
  induction retries generalizing disk attempt with
  | zero =>
    rw [persistRetrying, runOn_moveTempFile_eq hTarget hNode]
    by_cases hFree : disk.held = 0
    · rw [if_pos hFree, if_pos (Nat.le_of_eq hFree), hFree, waited_zero]
    · rw [if_neg hFree, if_neg (by omega)]
  | succ retries ih =>
    rw [persistRetrying, runOn_tryCatch, runOn_moveTempFile_eq hTarget hNode]
    by_cases hFree : disk.held = 0
    · rw [if_pos hFree, if_pos (by omega), hFree, waited_zero]
    · have hAgain := ih ((sameWays_waited disk 1).moveTarget_iff.mpr hTarget) hNode (attempt + 1)
      have hPause : (if FileFault.busy.isTransient then do
            pause (policy.delay attempt)
            persistRetrying policy temp path retries (attempt + 1)
          else throw FileFault.busy).runOn (disk.waited 1) =
          (persistRetrying policy temp path retries (attempt + 1)).runOn (disk.waited 1) := rfl
      have hHeld : (disk.waited 1).held = disk.held - 1 := rfl
      rw [if_neg hFree]
      refine hPause.trans (hAgain.trans ?_)
      rw [waited_waited, waited_waited, hHeld, Nat.add_sub_of_le (Nat.one_le_iff_ne_zero.mpr hFree),
        Nat.add_comm 1]
      by_cases hLess : disk.held ≤ retries + 1
      · rw [if_pos hLess, if_pos (by omega)]
      · rw [if_neg hLess, if_neg (by omega)]

end Moves

/-- A target that is held open for fewer moves than there are attempts gives way to the text. -/
theorem isOk_replaceAtomically_iff (policy : Backoff) (text : String)
    (hTemp : disk.tempPlace (Path.directory path) = .ok temp)
    (hTarget : disk.moveTarget path = .ok target) :
    ((replaceAtomically policy path text).runOn disk).1.isOk = true ↔
      disk.held < max 1 policy.attempts.toNat := by
  let created := disk.putFile temp .empty
  let written := created.setContent disk.newNumber text.toUTF8
  have hCreated : Beside temp .empty disk created := beside_putFile (node?_tempPlace hTemp) .empty
  have hNode : created.node? temp = some (.file disk.newNumber) := by
    rw [(puts_putFile (ne_nil_of_node?_eq_none hCreated.free) .empty).node, if_pos rfl]
  have hWritten : Beside temp text.toUTF8 disk written := hCreated.setContent hNode text.toUTF8
  have hCreate : (createTempFile (Path.directory path)).runOn disk = (.ok temp, created) := by
    show disk.createTemp _ = _
    rw [createTemp, hTemp]
  have hWrite : (writeTempFile temp text).runOn created = (.ok (), written) := by
    show created.writeTemp temp text.toUTF8 = _
    rw [writeTemp, hNode]
  have hSync : (syncTempFile temp).runOn written = (.ok (), written) := rfl
  have hMove := runOn_persistRetrying (hWritten.sameWays.moveTarget_iff.mpr hTarget) hNode policy
    (policy.attempts.toNat - 1) 0
  have hHeld : written.held = disk.held := rfl
  rw [replaceAtomically, runOn_bind, hCreate]
  dsimp only
  rw [runOn_tryCatch, runOn_bind, hWrite]
  dsimp only
  rw [runOn_bind, hSync]
  dsimp only
  rw [hMove, hHeld]
  by_cases hLess : disk.held ≤ policy.attempts.toNat - 1
  · rw [if_pos hLess]
    exact iff_of_true rfl (by omega)
  · rw [if_neg hLess]
    exact iff_of_false Bool.noConfusion (by omega)

end PresetCompiler.Disk
