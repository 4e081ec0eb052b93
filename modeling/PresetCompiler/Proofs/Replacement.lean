import PresetCompiler.Proofs.Script

/-! Writing through a temporary file, on any model of files. What single steps do to a temporary
file is one assumption each (`TempLaws`). From them follows what a replacement does as a whole,
however often it is retried and wherever it fails: the path is replaced, or everything is as it was
(`TempLaws.ends_replaceAtomically`). -/

namespace PresetCompiler

open Script Attempt

/-- The loop over attempts: one is made, and after a failure that may pass the next one, unless the
policy allows no more. -/
theorem persistRetrying_eq (policy : Backoff) (temp : Location) (path : String) {attempt : UInt32}
    (h : attempt.toNat + 1 < UInt32.size) :
    persistRetrying policy temp path (policy.attempts.toNat - 1 - attempt.toNat) attempt =
      tryCatch (moveTempFile temp path) fun fault =>
        if fault.isTransient ∧ attempt + 1 < policy.attempts then do
          pause (policy.delay attempt)
          persistRetrying policy temp path (policy.attempts.toNat - 1 - (attempt + 1).toNat)
            (attempt + 1)
        else throw fault := by
  have hNext : (attempt + 1).toNat = attempt.toNat + 1 := by
    rw [UInt32.toNat_add, UInt32.toNat_one]
    exact Nat.mod_eq_of_lt h
  by_cases hMore : attempt + 1 < policy.attempts
  · have hRetries : policy.attempts.toNat - 1 - attempt.toNat =
        policy.attempts.toNat - 1 - (attempt + 1).toNat + 1 := by
      rw [UInt32.lt_iff_toNat_lt, hNext] at hMore
      omega
    rw [hRetries, persistRetrying]
    simp only [hMore, and_true]
  · have hRetries : policy.attempts.toNat - 1 - attempt.toNat = 0 := by
      rw [UInt32.lt_iff_toNat_lt, hNext] at hMore
      omega
    rw [hRetries, persistRetrying]
    simp only [hMore, and_false, if_false]
    exact (tryCatch_throw _).symm
/-- What steps do to temporary files. `Same` relates files to later ones on which nothing has
changed, `Beside` to those with a temporary file of a given content besides, and `Replaced` to those
on which that file has taken its place at a path. -/
structure TempLaws (σ : Type) [FileSystem σ] (Same : σ → σ → Prop)
    (Beside : Location → ByteArray → σ → σ → Prop) (Replaced : String → ByteArray → σ → σ → Prop) :
    Prop where
  create {before after : σ} {directory : String} {temp : Location} :
    FileSystem.createTemp before directory = (.ok temp, after) → Beside temp .empty before after
  create_error {before after : σ} {directory : String} {fault : FileFault} :
    FileSystem.createTemp before directory = (.error fault, after) → Same before after
  write {before now after : σ} {temp : Location} {old bytes : ByteArray} :
    Beside temp old before now → FileSystem.writeTemp now temp bytes = (.ok (), after) →
      Beside temp bytes before after
  /-- A failed write may leave any part of the content. -/
  write_error {before now after : σ} {temp : Location} {old bytes : ByteArray} {fault : FileFault} :
    Beside temp old before now → FileSystem.writeTemp now temp bytes = (.error fault, after) →
      ∃ part, Beside temp part before after
  sync {before now : σ} {temp : Location} {bytes : ByteArray} :
    Beside temp bytes before now → Beside temp bytes before (FileSystem.syncTemp now temp).2
  move {before now after : σ} {temp : Location} {bytes : ByteArray} {path : String} :
    Beside temp bytes before now → FileSystem.moveTemp now temp path = (.ok (), after) →
      Replaced path bytes before after
  move_error {before now after : σ} {temp : Location} {bytes : ByteArray} {path : String}
    {fault : FileFault} :
    Beside temp bytes before now → FileSystem.moveTemp now temp path = (.error fault, after) →
      Beside temp bytes before after
  remove {before now : σ} {temp : Location} {bytes : ByteArray} :
    Beside temp bytes before now → Same before (FileSystem.removeTemp now temp)

namespace TempLaws

variable {σ : Type} [FileSystem σ] {Same : σ → σ → Prop}
  {Beside : Location → ByteArray → σ → σ → Prop} {Replaced : String → ByteArray → σ → σ → Prop}
  (laws : TempLaws σ Same Beside Replaced)
include laws

/-! ### Steps -/

theorem ends_createTempFile (before : σ) (directory : String) :
    (createTempFile directory).Ends (· = before) (fun temp => Beside temp .empty before)
      (Same before) := by
  refine ⟨?_⟩
  rintro files rfl
  rw [runOn_createTempFile]
  cases hCreate : FileSystem.createTemp files directory with
  | mk result after =>
    cases result with
    | ok temp => exact .ok (laws.create hCreate)
    | error fault => exact .error (laws.create_error hCreate)

section Temp

variable (before : σ) (temp : Location)

theorem ends_writeTempFile (old : ByteArray) (text : String) :
    (writeTempFile temp text).Ends (Beside temp old before)
      (fun _ => Beside temp text.toUTF8 before)
      (fun now => ∃ part, Beside temp part before now) := by
  refine ⟨fun {now} h => ?_⟩
  rw [runOn_writeTempFile]
  cases hWrite : FileSystem.writeTemp now temp text.toUTF8 with
  | mk result after =>
    cases result with
    | ok _ => exact .ok (laws.write h hWrite)
    | error fault => exact .error (laws.write_error h hWrite)

theorem ends_syncTempFile (bytes : ByteArray) :
    (syncTempFile temp).Ends (Beside temp bytes before) (fun _ => Beside temp bytes before)
      (Beside temp bytes before) := by
  refine ⟨fun {now} h => ?_⟩
  have hSync := laws.sync h
  rw [runOn_syncTempFile]
  generalize FileSystem.syncTemp now temp = ended at hSync
  obtain ⟨result, after⟩ := ended
  cases result with
  | ok _ => exact .ok hSync
  | error fault => exact .error hSync

theorem ends_moveTempFile (bytes : ByteArray) (path : String) :
    (moveTempFile temp path).Ends (Beside temp bytes before) (fun _ => Replaced path bytes before)
      (Beside temp bytes before) := by
  refine ⟨fun {now} h => ?_⟩
  rw [runOn_moveTempFile]
  cases hMove : FileSystem.moveTemp now temp path with
  | mk result after =>
    cases result with
    | ok _ => exact .ok (laws.move h hMove)
    | error fault => exact .error (laws.move_error h hMove)

/-! ### Runs -/

/-- However often a move is tried again, the temporary file is moved to the path or still there. -/
theorem ends_persistRetrying (policy : Backoff) (path : String) (bytes : ByteArray) (retries : Nat)
    (attempt : UInt32) :
    (persistRetrying policy temp path retries attempt).Ends (Beside temp bytes before)
      (fun _ => Replaced path bytes before) (Beside temp bytes before) := by
  induction retries generalizing attempt with
  | zero => exact laws.ends_moveTempFile before temp bytes path
  | succ retries ih =>
    refine (laws.ends_moveTempFile before temp bytes path).tryCatch fun fault => ?_
    split
    · have hPause : (pause (policy.delay attempt) : Attempt FileFault Unit).Ends
          (Beside temp bytes before) (fun _ => Beside temp bytes before)
          (Beside temp bytes before) := ⟨fun h => .ok h⟩
      exact hPause.bind fun _ => ih (attempt + 1)
    · exact ends_throw fault

end Temp

/-- A replacement puts the text at its path, or it fails and leaves everything as it was: whichever
step fails, the temporary file is removed. -/
theorem ends_replaceAtomically (policy : Backoff) (path text : String) (before : σ) :
    (replaceAtomically policy path text).Ends (· = before)
      (fun _ => Replaced path text.toUTF8 before) (Same before) := by
  refine (laws.ends_createTempFile before _).bind fun temp => ?_
  have hMove := (laws.ends_syncTempFile before temp text.toUTF8).bind fun _ =>
    laws.ends_persistRetrying before temp policy path text.toUTF8 (policy.attempts.toNat - 1) 0
  have hWrite := (laws.ends_writeTempFile before temp .empty text).bind fun _ =>
    hMove.mono (fun _ _ h => h) fun _ h => ⟨_, h⟩
  refine hWrite.tryCatch fun fault => ?_
  have hRemove : (removeTempFile temp : Attempt FileFault Unit).Ends
      (fun now => ∃ part, Beside temp part before now) (fun _ => Same before) (Same before) :=
    ⟨fun ⟨_, h⟩ => .ok (laws.remove h)⟩
  exact hRemove.bind fun _ => ends_throw fault

end TempLaws

end PresetCompiler
