import PresetCompiler.Proofs.FileTree.Writing
import PresetCompiler.Proofs.Replacement

/-! Attempts run on a tree, where temporary files are files like all others (`FileTree.tempLaws`).
Attempts that only read are put together from steps that do
(`OnlyReads`), and one that reads before it writes leaves every file as it was when it fails
(`FailsCleanly`). -/

namespace PresetCompiler

open Script

namespace FileTree

/-- A tree keeps a temporary file apart from its other files, until it is moved to where it is one
of them or removed. -/
theorem tempLaws : TempLaws FileTree SameFiles Beside Wrote where
  create {before after directory temp} h := by
    change before.createTemp directory = _ at h
    rw [createTemp] at h
    split at h <;> cases h
    exact beside_putFile (node?_tempPlace ‹_›) .empty
  create_error {before after directory fault} h := by
    change before.createTemp directory = _ at h
    rw [createTemp] at h
    split at h <;> cases h
    exact .refl before
  write {_ _ _ _ _ bytes} h hWrite := by
    cases hWrite
    exact h.putFile bytes
  write_error _ hWrite := by cases hWrite
  sync h := h
  move {_ now after temp _ path} h hMove := by
    change now.settle (now.move temp path) = _ at hMove
    cases hResult : now.move temp path with
    | ok moved =>
      rw [hResult] at hMove
      cases hMove
      exact wrote_of_move h hResult
    | error fault => rw [hResult] at hMove; cases hMove
  move_error {_ now after temp _ path _} h hMove := by
    change now.settle (now.move temp path) = _ at hMove
    cases hResult : now.move temp path with
    | ok moved => rw [hResult] at hMove; cases hMove
    | error fault =>
      rw [hResult] at hMove
      cases hMove
      exact h
  remove h := h.sameFiles_unlink

end FileTree

namespace Attempt

variable {α β ε ε' : Type} {tree : FileTree}

/-! ### Steps on a tree -/

@[simp] theorem runOn_containsPath (path : String) :
    (containsPath path : Attempt ε Bool).runOn tree = (.ok (tree.contains path), tree) := rfl

@[simp] theorem runOn_readFile (path : String) :
    (readFile path).runOn tree = (tree.read path, tree) := rfl

@[simp] theorem runOn_writeFile (path text : String) :
    (writeFile path text).runOn tree = tree.settle (tree.write path text.toUTF8) := rfl

@[simp] theorem runOn_createDirectories (path : String) :
    (createDirectories path).runOn tree = tree.createDirs path := rfl

theorem runOn_writeFile_eq_ok_iff {after : FileTree} {path text : String} :
    (writeFile path text).runOn tree = (.ok (), after) ↔
      tree.write path text.toUTF8 = .ok after := by
  rw [runOn_writeFile]
  cases tree.write path text.toUTF8 <;> simp [FileTree.settle]

/-! ### Attempts that only read -/

/-- An attempt that leaves every tree as it is. -/
def OnlyReads (attempt : Attempt ε α) : Prop :=
  ∀ tree : FileTree, (attempt.runOn tree).2 = tree

theorem onlyReads_pure (value : α) : (pure value : Attempt ε α).OnlyReads :=
  fun _ => rfl

theorem onlyReads_throw (fault : ε) : (throw fault : Attempt ε α).OnlyReads :=
  fun _ => rfl

theorem onlyReads_ofExcept (result : Except ε α) : (ofExcept result).OnlyReads :=
  fun _ => rfl

theorem onlyReads_containsPath (path : String) : (containsPath path : Attempt ε Bool).OnlyReads :=
  fun _ => rfl

theorem onlyReads_readFile (path : String) : (readFile path).OnlyReads :=
  fun _ => rfl

namespace OnlyReads

variable {attempt : Attempt ε α} (h : attempt.OnlyReads)
include h

theorem runOn_eq (tree : FileTree) : attempt.runOn tree = ((attempt.runOn tree).1, tree) :=
  Prod.ext rfl (h tree)

theorem mapFault (f : ε → ε') : (attempt.mapFault f).OnlyReads := fun tree => by
  rw [runOn_mapFault]
  exact h tree

theorem runOn_bind (next : α → Attempt ε β) (tree : FileTree) :
    (attempt >>= next).runOn tree =
      match (attempt.runOn tree).1 with
      | .ok value => (next value).runOn tree
      | .error fault => (.error fault, tree) := by
  rw [Attempt.runOn_bind, h.runOn_eq]
  cases (attempt.runOn tree).1 <;> rfl

theorem bind {next : α → Attempt ε β} (hNext : ∀ value, (next value).OnlyReads) :
    (attempt >>= next).OnlyReads := fun tree => by
  rw [h.runOn_bind]
  split
  · exact hNext _ tree
  · rfl

/-- What was read, when a success began with it. -/
theorem exists_of_runOn_bind {next : α → Attempt ε β} {result : β} {after : FileTree}
    (hRun : (attempt >>= next).runOn tree = (.ok result, after)) :
    ∃ value, attempt.runOn tree = (.ok value, tree) ∧
      (next value).runOn tree = (.ok result, after) := by
  obtain ⟨value, between, hValue, hNext⟩ := Attempt.exists_of_runOn_bind hRun
  obtain rfl : between = tree := by rw [← h tree, hValue]
  exact ⟨value, hValue, hNext⟩

end OnlyReads

/-! ### Attempts that fail cleanly -/

/-- An attempt that leaves every file as it is when it fails. -/
def FailsCleanly (attempt : Attempt ε α) : Prop :=
  ∀ tree : FileTree,
    (attempt.runOn tree).1.isOk = false → FileTree.SameFiles tree (attempt.runOn tree).2

theorem OnlyReads.failsCleanly {attempt : Attempt ε α} (h : attempt.OnlyReads) :
    attempt.FailsCleanly := fun tree _ => by
  rw [h tree]
  exact .refl tree

/-- Reading comes before what fails cleanly. -/
theorem OnlyReads.bind_failsCleanly {attempt : Attempt ε α} (h : attempt.OnlyReads)
    {next : α → Attempt ε β} (hNext : ∀ value, (next value).FailsCleanly) :
    (attempt >>= next).FailsCleanly := fun tree => by
  rw [h.runOn_bind]
  split
  · exact hNext _ tree
  · exact fun _ => .refl tree

/-- What cannot fail may follow. -/
theorem FailsCleanly.bind_pure {attempt : Attempt ε α} (h : attempt.FailsCleanly)
    (f : α → β) : (attempt >>= fun value => pure (f value)).FailsCleanly := fun tree hFault => by
  have hKept := h tree
  rw [runOn_bind] at hFault ⊢
  generalize attempt.runOn tree = ended at hKept hFault
  obtain ⟨result, after⟩ := ended
  cases result with
  | ok value => cases hFault
  | error fault => exact hKept rfl

end Attempt

end PresetCompiler
