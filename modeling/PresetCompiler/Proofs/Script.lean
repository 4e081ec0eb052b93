import PresetCompiler.Storage

/-! Attempts run on files. Each step has one equation for its result and the files after it, so that
an attempt is followed step by step, whatever model of files it is run on. -/

namespace PresetCompiler

open Script

/-- What a success of two steps says of the first one. -/
theorem exists_of_bind {ε α β : Type} {first : Except ε α} {next : α → Except ε β} {result : β}
    (h : first >>= next = .ok result) : ∃ value, first = .ok value ∧ next value = .ok result := by
  cases first with
  | error fault => cases h
  | ok value => exact ⟨value, rfl, h⟩

theorem Script.bind_done {α : Type} (script : Script α) : script.bind .done = script := by
  induction script with
  | done value => rfl
  | contains path next ih => exact congrArg (Script.contains path) (funext ih)
  | read path next ih => exact congrArg (Script.read path) (funext ih)
  | write path bytes next ih => exact congrArg (Script.write path bytes) (funext ih)
  | createDirs path next ih => exact congrArg (Script.createDirs path) (funext ih)
  | createTemp directory next ih => exact congrArg (Script.createTemp directory) (funext ih)
  | writeTemp temp bytes next ih => exact congrArg (Script.writeTemp temp bytes) (funext ih)
  | syncTemp temp next ih => exact congrArg (Script.syncTemp temp) (funext ih)
  | moveTemp temp path next ih => exact congrArg (Script.moveTemp temp path) (funext ih)
  | removeTemp temp next ih => exact congrArg (Script.removeTemp temp) (funext ih)
  | sleep delay next ih => exact congrArg (Script.sleep delay) (funext ih)

namespace Attempt

variable {σ α β ε ε' : Type} [FileSystem σ]

/-- The result of an attempt on files, and the files after it. -/
def runOn (attempt : Attempt ε α) (files : σ) : Except ε α × σ :=
  Script.run files attempt.run

variable {files : σ}

/-- Two attempts one after the other: the second runs only after a success. -/
theorem runOn_bind (attempt : Attempt ε α) (next : α → Attempt ε β) :
    (attempt >>= next).runOn files =
      match attempt.runOn files with
      | (.ok value, after) => (next value).runOn after
      | (.error fault, after) => (.error fault, after) := by
  have hRun : (attempt >>= next).runOn files = Script.run (attempt.runOn files).2
      (ExceptT.bindCont next (attempt.runOn files).1) := run_bind files attempt.run _
  rw [hRun]
  obtain ⟨result, after⟩ := attempt.runOn files
  cases result <;> rfl

theorem runOn_mapFault (f : ε → ε') (attempt : Attempt ε α) :
    (attempt.mapFault f).runOn files =
      ((attempt.runOn files).1.mapError f, (attempt.runOn files).2) :=
  run_bind files attempt.run _

theorem runOn_tryCatch (attempt : Attempt ε α) (handle : ε → Attempt ε α) :
    (tryCatch attempt handle).runOn files =
      match attempt.runOn files with
      | (.ok value, after) => (.ok value, after)
      | (.error fault, after) => (handle fault).runOn after := by
  refine Eq.trans (run_bind files attempt.run _) ?_
  rw [runOn]
  obtain ⟨result, after⟩ := Script.run files attempt.run
  cases result <;> rfl

omit [FileSystem σ] in
theorem tryCatch_throw (attempt : Attempt ε α) : tryCatch attempt throw = attempt := by
  refine Eq.trans (congrArg (Script.bind attempt.run) (funext fun result => ?_))
    (bind_done attempt.run)
  cases result <;> rfl

/-! ### Steps on temporary files -/

section Steps

variable (temp : Location) (path text : String)

@[simp] theorem runOn_createTempFile (directory : String) :
    (createTempFile directory).runOn files = FileSystem.createTemp files directory := rfl

@[simp] theorem runOn_writeTempFile :
    (writeTempFile temp text).runOn files = FileSystem.writeTemp files temp text.toUTF8 := rfl

@[simp] theorem runOn_syncTempFile :
    (syncTempFile temp).runOn files = FileSystem.syncTemp files temp := rfl

@[simp] theorem runOn_moveTempFile :
    (moveTempFile temp path).runOn files = FileSystem.moveTemp files temp path := rfl

end Steps

/-! ### Successes -/

section Success

variable {after : σ} {attempt : Attempt ε α}

theorem exists_of_runOn_bind {next : α → Attempt ε β} {result : β}
    (h : (attempt >>= next).runOn files = (.ok result, after)) :
    ∃ value between, attempt.runOn files = (.ok value, between) ∧
      (next value).runOn between = (.ok result, after) := by
  rw [runOn_bind] at h
  split at h
  · exact ⟨_, _, ‹_›, h⟩
  · cases h

theorem runOn_mapFault_eq_ok_iff {f : ε → ε'} {value : α} :
    (attempt.mapFault f).runOn files = (.ok value, after) ↔
      attempt.runOn files = (.ok value, after) := by
  rw [runOn_mapFault]
  obtain ⟨result, between⟩ := attempt.runOn files
  cases result <;> constructor <;> intro h <;> cases h <;> rfl

end Success

/-! ### Ends -/

/-- An attempt has succeeded with what `good` says of its value and of the files then, or it has
failed and left them as `bad` says. -/
inductive EndedAs (good : α → σ → Prop) (bad : σ → Prop) : Except ε α × σ → Prop
  | ok {value : α} {after : σ} (h : good value after) : EndedAs good bad (.ok value, after)
  | error {fault : ε} {after : σ} (h : bad after) : EndedAs good bad (.error fault, after)

omit [FileSystem σ] in
/-- What holds after success and after failure. -/
theorem EndedAs.after {always : σ → Prop} {ended : Except ε α × σ}
    (h : EndedAs (fun _ => always) always ended) : always ended.2 := by
  cases h with
  | ok h => exact h
  | error h => exact h

/-- Started on files that are as `before` says, an attempt ends as `good` and `bad` say. -/
structure Ends (attempt : Attempt ε α) (before : σ → Prop) (good : α → σ → Prop) (bad : σ → Prop) :
    Prop where
  endedAs {files : σ} (h : before files) : EndedAs good bad (attempt.runOn files)

section Ends

variable {attempt : Attempt ε α} {before bad : σ → Prop} {good : α → σ → Prop}

theorem ends_throw (fault : ε) : (throw fault : Attempt ε α).Ends bad good bad :=
  ⟨fun hBad => .error hBad⟩

theorem Ends.bind {middle : α → σ → Prop} {next : α → Attempt ε β} {goal : β → σ → Prop}
    (h : attempt.Ends before middle bad)
    (hNext : ∀ value, (next value).Ends (middle value) goal bad) :
    (attempt >>= next).Ends before goal bad := by
  refine ⟨fun {files} hBefore => ?_⟩
  have hEnd := h.endedAs hBefore
  rw [runOn_bind]
  generalize attempt.runOn files = ended at hEnd
  cases hEnd with
  | ok hMiddle => exact (hNext _).endedAs hMiddle
  | error hBad => exact .error hBad

theorem Ends.tryCatch {middle : σ → Prop} {handle : ε → Attempt ε α}
    (h : attempt.Ends before good middle) (hHandle : ∀ fault, (handle fault).Ends middle good bad) :
    (tryCatch attempt handle).Ends before good bad := by
  refine ⟨fun {files} hBefore => ?_⟩
  have hEnd := h.endedAs hBefore
  rw [runOn_tryCatch]
  generalize attempt.runOn files = ended at hEnd
  cases hEnd with
  | ok hGood => exact .ok hGood
  | error hMiddle => exact (hHandle _).endedAs hMiddle

theorem Ends.mapFault (h : attempt.Ends before good bad) (f : ε → ε') :
    (attempt.mapFault f).Ends before good bad := by
  refine ⟨fun {files} hBefore => ?_⟩
  have hEnd := h.endedAs hBefore
  rw [runOn_mapFault]
  generalize attempt.runOn files = ended at hEnd
  cases hEnd with
  | ok hGood => exact .ok hGood
  | error hBad => exact .error hBad

theorem Ends.mono {good' : α → σ → Prop} {bad' : σ → Prop} (h : attempt.Ends before good bad)
    (hGood : ∀ value files, good value files → good' value files)
    (hBad : ∀ files, bad files → bad' files) : attempt.Ends before good' bad' := by
  refine ⟨fun {files} hBefore => ?_⟩
  have hEnd := h.endedAs hBefore
  generalize attempt.runOn files = ended at hEnd
  cases hEnd with
  | ok h => exact .ok (hGood _ _ h)
  | error h => exact .error (hBad _ h)

end Ends

end Attempt

end PresetCompiler
