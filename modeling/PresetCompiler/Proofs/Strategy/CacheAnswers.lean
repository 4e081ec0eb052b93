import PresetCompiler.Proofs.Strategy.CacheRun

/-! What a catalog cache answers in the course of a run. For a path that names a file the answer is
what loading the file gives; a catalog is given out again until its file is written or it is
dropped; and for a path that names nothing the catalog that is still held is given out
(`CacheState.answer_run`). -/

namespace PresetCompiler

namespace CacheState

/-! ### Answers -/

section Answer

variable {seen : Location → Int → Prop} {state : CacheState} {path : String} {bytes : ByteArray}
  {time : Int} {cached earlier : CachedCatalog}

theorem isStale_iff {early : Int} (h : cached.modified = some early) (late : Int) :
    cached.isStale (some late) = true ↔ early < late := by
  simp [CachedCatalog.isStale, h]

/-- A catalog that is given out of the cache has the time of its file. -/
theorem Coherent.modified_of_fresh (h : Coherent seen state)
    (hFile : state.tree.find path = .ok (.file bytes time))
    (hFind : state.cache.find? path = some cached)
    (hFresh : cached.isStale (state.tree.modified? path) = false) :
    cached.modified = some time := by
  obtain ⟨location, hLocate, hNode⟩ := FileTree.exists_of_find hFile
  obtain ⟨early, hModified, hSeen, -⟩ := h.entry hFind hLocate
  have hLe : early ≤ time := (h.file hNode).2 early hSeen
  have hNotLess : ¬early < time := by
    rw [FileTree.modified?, hFile] at hFresh
    rw [← isStale_iff hModified, hFresh]
    exact Bool.false_ne_true
  rw [hModified, Int.le_antisymm hLe (Int.not_lt.mp hNotLess)]

theorem Coherent.answer_of_file (h : Coherent seen state)
    (hFile : state.tree.find path = .ok (.file bytes time)) :
    (state.answer path).map CachedCatalog.catalog = Catalog.loadFrom state.tree path := by
  rw [answer]
  cases state.cache.outcome state.tree path with
  | fresh cached find notStale answer =>
    obtain ⟨location, hLocate, hNode⟩ := FileTree.exists_of_find hFile
    obtain ⟨early, hModified, -, hContent⟩ := h.entry find hLocate
    have hTime := hModified.symm.trans (h.modified_of_fresh hFile find notStale)
    cases hTime
    rw [answer, Catalog.loadFrom_of_file hFile, hContent bytes hNode]
    rfl
  | loaded catalog load _ answer =>
    rw [answer, load]
    rfl
  | failed fault load _ answer =>
    rw [answer, load]
    rfl

theorem Coherent.modified_of_answer (h : Coherent seen state)
    (hFile : state.tree.find path = .ok (.file bytes time))
    (hAnswer : state.answer path = .ok cached) : cached.modified = some time := by
  rw [answer] at hAnswer
  cases state.cache.outcome state.tree path with
  | fresh earlier find notStale answer =>
    rw [answer] at hAnswer
    cases hAnswer
    exact h.modified_of_fresh hFile find notStale
  | loaded catalog _ _ answer =>
    rw [answer] at hAnswer
    cases hAnswer
    change state.tree.modified? path = some time
    rw [FileTree.modified?, hFile]
  | failed _ _ _ answer =>
    rw [answer] at hAnswer
    cases hAnswer

end Answer

/-! ### One path in the course of a run -/

/-- What a step can do to the catalog that is cached for a path. -/
inductive Entry (state : CacheState) (step : CacheStep) (path : String) : Prop
  | same (find : (state.after step).cache.find? path = state.cache.find? path)
      (kept : ¬step.Drops path)
  | dropped (find : (state.after step).cache.find? path = none) (drops : step.Drops path)
  | loaded (cached : CachedCatalog) (find : (state.after step).cache.find? path = some cached)
      (serial : cached.serial = state.cache.loads)

theorem entry (state : CacheState) (step : CacheStep) (path : String) : state.Entry step path := by
  cases step with
  | write _ _ _ => exact .same rfl id
  | delete _ => exact .same rfl id
  | clear => exact .dropped rfl trivial
  | invalidate other =>
    by_cases hParts : Path.parts path = Path.parts other
    · exact .dropped (by rw [after, CatalogCache.find?_invalidate, if_pos hParts]) hParts.symm
    · exact .same (by rw [after, CatalogCache.find?_invalidate, if_neg hParts]) (Ne.symm hParts)
  | get other =>
    cases state.cache.outcome state.tree other with
    | fresh _ _ _ answer => exact .same (by rw [after, answer]) id
    | failed _ _ _ answer => exact .same (by rw [after, answer]) id
    | loaded catalog _ _ answer =>
      have hFind := CatalogCache.find?_insert state.cache other catalog
        (state.tree.modified? other) path
      by_cases hParts : Path.parts path = Path.parts other
      · rw [if_pos hParts] at hFind
        exact .loaded _ (by rw [after, answer, hFind]) rfl
      · rw [if_neg hParts] at hFind
        exact .same (by rw [after, answer, hFind]) id

theorem loads_le_after (state : CacheState) (step : CacheStep) :
    state.cache.loads ≤ (state.after step).cache.loads := by
  cases step with
  | write _ _ _ => exact Nat.le_refl _
  | delete _ => exact Nat.le_refl _
  | clear => exact Nat.le_refl _
  | invalidate _ => exact Nat.le_refl _
  | get path =>
    cases state.cache.outcome state.tree path with
    | fresh _ _ _ answer => exact Nat.le_of_eq (by rw [after, answer])
    | failed _ _ _ answer => exact Nat.le_of_eq (by rw [after, answer])
    | loaded _ _ _ answer =>
      rw [after, answer]
      exact Nat.le_succ _

/-- A catalog is still cached for a path. -/
structure Keeps (path : String) (earlier : CachedCatalog) (state : CacheState) : Prop where
  find : state.cache.find? path = some earlier
  serial : earlier.serial < state.cache.loads

/-- Whatever is cached for a path was loaded after a catalog. -/
structure Replaces (path : String) (earlier : CachedCatalog) (state : CacheState) : Prop where
  find : ∀ cached, state.cache.find? path = some cached → earlier.serial < cached.serial
  serial : earlier.serial < state.cache.loads

section Path

variable {state : CacheState} {path : String} {earlier : CachedCatalog}

theorem Replaces.step (h : state.Replaces path earlier) (step : CacheStep) :
    (state.after step).Replaces path earlier := by
  have hSerial := Nat.lt_of_lt_of_le h.serial (state.loads_le_after step)
  refine ⟨fun cached hFind => ?_, hSerial⟩
  cases state.entry step path with
  | same find _ => exact h.find cached (find ▸ hFind)
  | dropped find _ => rw [find] at hFind; cases hFind
  | loaded _ find serial =>
    rw [find] at hFind
    cases hFind
    rw [serial]
    exact h.serial

theorem Keeps.step (h : state.Keeps path earlier) (step : CacheStep) :
    ((state.after step).Keeps path earlier ∧ ¬step.Drops path) ∨
      (state.after step).Replaces path earlier := by
  have hSerial := Nat.lt_of_lt_of_le h.serial (state.loads_le_after step)
  cases state.entry step path with
  | same find kept => exact .inl ⟨⟨find.trans h.find, hSerial⟩, kept⟩
  | dropped find _ =>
    refine .inr ⟨fun cached hFind => ?_, hSerial⟩
    rw [find] at hFind
    cases hFind
  | loaded cached find serial =>
    refine .inr ⟨fun other hFind => ?_, hSerial⟩
    rw [find] at hFind
    cases hFind
    rw [serial]
    exact h.serial

theorem Replaces.run (h : state.Replaces path earlier) (steps : List CacheStep) :
    (state.run steps).Replaces path earlier := by
  induction steps generalizing state with
  | nil => exact h
  | cons step rest ih => exact ih (h.step step)

/-- A catalog is given up for good once it is dropped or loaded anew. -/
theorem Keeps.run (h : state.Keeps path earlier) (steps : List CacheStep) :
    ((state.run steps).Keeps path earlier ∧ ∀ step ∈ steps, ¬step.Drops path) ∨
      (state.run steps).Replaces path earlier := by
  induction steps generalizing state with
  | nil => exact .inl ⟨h, by simp⟩
  | cons step rest ih =>
    rcases h.step step with ⟨hKeeps, hStep⟩ | hReplaces
    · exact (ih hKeeps).imp_left fun ⟨hRun, hRest⟩ =>
        ⟨hRun, List.forall_mem_cons.mpr ⟨hStep, hRest⟩⟩
    · exact .inr (hReplaces.run rest)

/-- An answer that is a catalog of before is this very one, still cached and not stale. -/
theorem keeps_of_answer (h : state.Keeps path earlier ∨ state.Replaces path earlier)
    {again : CachedCatalog} (hAnswer : state.answer path = .ok again)
    (hSerial : again.serial = earlier.serial) :
    state.Keeps path earlier ∧ earlier.isStale (state.tree.modified? path) = false := by
  rw [answer] at hAnswer
  cases state.cache.outcome state.tree path with
  | fresh cached find notStale answer =>
    rw [answer] at hAnswer
    cases hAnswer
    rcases h with hKeeps | hReplaces
    · cases find.symm.trans hKeeps.find
      exact ⟨hKeeps, notStale⟩
    · have hLess := hReplaces.find again find
      omega
  | loaded catalog _ _ answer =>
    rw [answer] at hAnswer
    cases hAnswer
    have hLess : earlier.serial < state.cache.loads := h.elim (·.serial) (·.serial)
    change state.cache.loads = earlier.serial at hSerial
    omega
  | failed _ _ _ answer =>
    rw [answer] at hAnswer
    cases hAnswer

/-- A catalog of the time of its file is not stale, by whatever path it is asked for. -/
theorem not_isStale_of_parts {other : String} {location : Location} {bytes : ByteArray} {time : Int}
    (hModified : earlier.modified = some time) (hLocate : state.tree.locate path = .ok location)
    (hNode : state.tree.node? location = some (.file bytes time))
    (hParts : Path.parts other = Path.parts path) :
    earlier.isStale (state.tree.modified? other) = false := by
  cases hOther : state.tree.modified? other with
  | none => exact CatalogCache.isStale_none earlier
  | some late =>
    obtain ⟨place, hPlace, hThere⟩ := FileTree.exists_of_modified? hOther
    obtain rfl := FileTree.location_eq_of_parts hParts hPlace hLocate
    rw [hNode] at hThere
    rcases hThere with ⟨content, hFile⟩ | hDirectory
    · cases hFile
      exact Bool.eq_false_iff.mpr fun hStale =>
        Int.lt_irrefl _ ((isStale_iff hModified _).mp hStale)
    · cases hDirectory

theorem find?_run_of_idle {steps : List CacheStep} {location : Location} {bytes : ByteArray}
    {time : Int} (hFind : state.cache.find? path = some earlier)
    (hModified : earlier.modified = some time)
    (hLocate : (state.run steps).tree.locate path = .ok location)
    (hNode : (state.run steps).tree.node? location = some (.file bytes time))
    (hUnwritten : ∀ time, (location, time) ∉ state.stamps steps)
    (hKept : ∀ step ∈ steps, ¬step.Drops path) :
    (state.run steps).cache.find? path = some earlier := by
  induction steps generalizing state with
  | nil => exact hFind
  | cons step rest ih =>
    have hHere := node?_of_unwritten hUnwritten hNode
    have hPlace := (state.shrinks_run (step :: rest)).locate hLocate
    refine ih ?_ hLocate hNode (fun time hMem => hUnwritten time (List.mem_append_right _ hMem))
      fun other hOther => hKept other (List.mem_cons_of_mem step hOther)
    have hStep := hKept step List.mem_cons_self
    cases step with
    | write _ _ _ => exact hFind
    | delete _ => exact hFind
    | clear => exact absurd trivial hStep
    | invalidate other =>
      change (state.cache.invalidate other).2.find? path = some earlier
      rw [CatalogCache.find?_invalidate, if_neg (Ne.symm hStep), hFind]
    | get other =>
      change (state.cache.get state.tree other).2.find? path = some earlier
      by_cases hParts : Path.parts other = Path.parts path
      · -- Under either spelling the catalog is fresh, so that nothing is loaded in its place.
        have hFresh := not_isStale_of_parts hModified hPlace hHere hParts
        rw [CatalogCache.get_of_fresh ((CatalogCache.find?_congr hParts).trans hFind) hFresh, hFind]
      · rw [CatalogCache.find?_get_of_ne (Ne.symm hParts), hFind]

end Path

/-! ### The last catalog for a path -/

/-- The catalog that was last given out for a path, unless it was dropped since. -/
def heldAfter (path : String) (state : CacheState) (held : Option CachedCatalog) :
    CacheStep → Option CachedCatalog
  | .get other =>
    if Path.parts other = Path.parts path then
      match state.answer other with
      | .ok cached => some cached
      | .error _ => held
    else held
  | .invalidate other => if Path.parts other = Path.parts path then none else held
  | .clear => none
  | .write .. | .delete .. => held

def held (path : String) (state : CacheState) (before : Option CachedCatalog) :
    List CacheStep → Option CachedCatalog
  | [] => before
  | step :: rest => held path (state.after step) (heldAfter path state before step) rest

theorem find?_after (state : CacheState) (step : CacheStep) (path : String) :
    (state.after step).cache.find? path =
      heldAfter path state (state.cache.find? path) step := by
  cases step with
  | write _ _ _ => rfl
  | delete _ => rfl
  | clear => rfl
  | invalidate other =>
    change (state.cache.invalidate other).2.find? path = _
    rw [CatalogCache.find?_invalidate, heldAfter]
    simp only [eq_comm]
  | get other =>
    change (state.cache.get state.tree other).2.find? path = _
    rw [heldAfter]
    by_cases hParts : Path.parts other = Path.parts path
    · rw [if_pos hParts, answer]
      cases hAnswer : (state.cache.get state.tree other).1 with
      | ok cached =>
        exact (CatalogCache.find?_congr hParts.symm).trans (CatalogCache.find?_get hAnswer)
      | error fault => rw [CatalogCache.get_of_error hAnswer]
    · rw [if_neg hParts, CatalogCache.find?_get_of_ne (Ne.symm hParts)]

theorem find?_run (state : CacheState) (steps : List CacheStep) (path : String) :
    (state.run steps).cache.find? path = held path state (state.cache.find? path) steps := by
  induction steps generalizing state with
  | nil => rfl
  | cons step rest ih => rw [run_cons, ih, find?_after, held]

theorem find?_after_of_ne (state : CacheState) {step : CacheStep} {path other : String}
    (hStep : step.path? = some path) (hParts : Path.parts other ≠ Path.parts path) :
    (state.after step).cache.find? other = state.cache.find? other := by
  rw [find?_after]
  cases step with
  | write _ _ _ => rfl
  | delete _ => rfl
  | clear => cases hStep
  | invalidate _ =>
    cases hStep
    rw [heldAfter, if_neg (Ne.symm hParts)]
  | get _ =>
    cases hStep
    rw [heldAfter, if_neg (Ne.symm hParts)]

/-! ### Well-timed runs -/

/-- Whether a run writes the file that a path names. -/
def WritesFile (state : CacheState) (steps : List CacheStep) (path : String) : Prop :=
  ∃ location time, state.tree.locate path = .ok location ∧ (location, time) ∈ state.stamps steps

section Run

variable {state : CacheState} {tree : FileTree} {front back before between : List CacheStep}
  {path : String} {bytes : ByteArray} {time : Int} {location : Location} {earlier : CachedCatalog}

theorem WellTimed.of_append (h : state.WellTimed (front ++ back)) : state.WellTimed front := by
  obtain ⟨hLater, hIncreasing⟩ := h
  rw [stamps_append] at hLater hIncreasing
  exact ⟨fun location bytes time hFile written hMem =>
    hLater location bytes time hFile written (List.mem_append_left _ hMem),
    (List.pairwise_append.mp hIncreasing).1⟩

/-- A time that a file has had is before every time at which it is written afterwards. -/
theorem WellTimed.seen_lt (h : state.WellTimed (front ++ back))
    (hSeen : state.Seen front location time) {written : Int}
    (hWritten : (location, written) ∈ (state.run front).stamps back) :
    time < written := by
  obtain ⟨hLater, hIncreasing⟩ := h
  rw [stamps_append] at hLater hIncreasing
  rcases hSeen with ⟨bytes, hFile⟩ | hStamp
  · exact hLater location bytes time hFile written (List.mem_append_right _ hWritten)
  · exact (List.pairwise_append.mp hIncreasing).2.2 _ hStamp _ hWritten rfl

theorem isStale_of_writesFile (h : (start tree).WellTimed (front ++ back))
    (hFind : ((start tree).run front).cache.find? path = some earlier)
    (hFile : ((start tree).run (front ++ back)).tree.find path = .ok (.file bytes time))
    (hWrites : ((start tree).run front).WritesFile back path) :
    earlier.isStale (((start tree).run (front ++ back)).tree.modified? path) = true := by
  obtain ⟨location, hLocate, hNode⟩ := FileTree.exists_of_find hFile
  obtain ⟨place, written, hPlace, hStamp⟩ := hWrites
  rw [run_append] at hLocate
  have hSame : location = place :=
    Except.ok.inj (((shrinks_run _ back).locate hLocate).symm.trans hPlace)
  subst hSame
  obtain ⟨early, hEarly, hSeen, -⟩ := (coherent_run h.of_append).entry hFind hPlace
  have hBefore : early < written := h.seen_lt hSeen hStamp
  have hUntil : written ≤ time := by
    refine ((coherent_run h).file hNode).2 written (.inr ?_)
    rw [stamps_append]
    exact List.mem_append_right _ hStamp
  rw [FileTree.modified?, hFile]
  exact (isStale_iff hEarly time).mpr (Int.lt_of_lt_of_le hBefore hUntil)

/-- A catalog that is given out again for its file was not dropped, nor the file written. -/
theorem not_writesFile_of_again (h : (start tree).WellTimed (front ++ back))
    (hKeeps : ((start tree).run front).Keeps path earlier)
    (hFile : ((start tree).run (front ++ back)).tree.find path = .ok (.file bytes time))
    {again : CachedCatalog} (hAnswer : ((start tree).run (front ++ back)).answer path = .ok again)
    (hSerial : again.serial = earlier.serial) :
    ¬((start tree).run front).WritesFile back path ∧ ∀ step ∈ back, ¬step.Drops path := by
  have hRun := hKeeps.run back
  rw [← run_append] at hRun
  obtain ⟨hStill, hFresh⟩ := keeps_of_answer (hRun.imp_left And.left) hAnswer hSerial
  constructor
  · intro hWrites
    rw [isStale_of_writesFile h hKeeps.find hFile hWrites] at hFresh
    contradiction
  · rcases hRun with ⟨-, hKept⟩ | hReplaces
    · exact hKept
    · exact absurd (hReplaces.find earlier hStill.find) (Nat.lt_irrefl _)

theorem answer_of_not_writesFile (hFind : state.cache.find? path = some earlier)
    (hModified : earlier.modified = some time)
    (hFile : (state.run back).tree.find path = .ok (.file bytes time))
    (hUnwritten : ¬state.WritesFile back path) (hKept : ∀ step ∈ back, ¬step.Drops path) :
    (state.run back).answer path = .ok earlier := by
  obtain ⟨location, hLocate, hNode⟩ := FileTree.exists_of_find hFile
  have hPlace := (state.shrinks_run back).locate hLocate
  have hStill := find?_run_of_idle hFind hModified hLocate hNode
    (fun time hStamp => hUnwritten ⟨location, time, hPlace, hStamp⟩) hKept
  have hFresh := not_isStale_of_parts hModified hLocate hNode rfl
  rw [answer, CatalogCache.get_of_fresh hStill hFresh]

/-- A file that a run did not write was found before, as it is afterwards. -/
theorem find_of_not_writesFile (hFile : (state.run back).tree.find path = .ok (.file bytes time))
    (hUnwritten : ¬state.WritesFile back path) :
    state.tree.find path = .ok (.file bytes time) := by
  obtain ⟨hSlash, location, hLocate, hNode⟩ := FileTree.find_eq_file_iff.mp hFile
  have hPlace := (state.shrinks_run back).locate hLocate
  refine FileTree.find_eq_file_iff.mpr ⟨hSlash, location, hPlace, ?_⟩
  exact node?_of_unwritten (fun time hStamp => hUnwritten ⟨location, time, hPlace, hStamp⟩) hNode

/-- A catalog is given out again for its file exactly when the file was not written and the catalog
was not dropped in between. -/
theorem answers_again_iff (h : (start tree).WellTimed (before ++ [.get path] ++ between))
    (hEarlier : ((start tree).run before).answer path = .ok earlier)
    (hFile : ((start tree).run (before ++ [.get path] ++ between)).tree.find path =
      .ok (.file bytes time)) :
    (∃ again, ((start tree).run (before ++ [.get path] ++ between)).answer path = .ok again ∧
        again.serial = earlier.serial) ↔
      ¬((start tree).run (before ++ [.get path])).WritesFile between path ∧
        ∀ step ∈ between, ¬step.Drops path := by
  have hGet : (start tree).run (before ++ [.get path]) =
      ((start tree).run before).after (.get path) := run_append _ _ _
  have hFind : ((start tree).run (before ++ [.get path])).cache.find? path = some earlier := by
    rw [hGet]
    exact CatalogCache.find?_get hEarlier
  constructor
  · rintro ⟨again, hAnswer, hSerial⟩
    exact not_writesFile_of_again h ⟨hFind, (coherent_run h.of_append).serial hFind⟩ hFile hAnswer
      hSerial
  · rintro ⟨hUnwritten, hKept⟩
    rw [run_append] at hFile ⊢
    have hThere := find_of_not_writesFile hFile hUnwritten
    have hModified : earlier.modified = some time := by
      rw [hGet] at hThere
      exact (coherent_run h.of_append.of_append).modified_of_answer hThere hEarlier
    exact ⟨earlier, answer_of_not_writesFile hFind hModified hFile hUnwritten hKept, rfl⟩

end Run

/-- The answers of a cache in the course of a run. For a path that names a file the answer is what
loading the file gives, and a catalog of before is given out again exactly when the file was not
written since and the catalog was not dropped. For a path that names nothing the catalog that is
still held is given out. A failure leaves the cache as it was, and what is done with one path leaves
the catalogs of the others. -/
theorem answer_run {tree : FileTree} {steps : List CacheStep} (h : (start tree).WellTimed steps)
    (path : String) :
    let state := (start tree).run steps
    (∀ bytes time, state.tree.find path = .ok (.file bytes time) →
      (state.answer path).map CachedCatalog.catalog = Catalog.loadFrom state.tree path ∧
        ∀ before between earlier, steps = before ++ [.get path] ++ between →
          ((start tree).run before).answer path = .ok earlier →
            ((∃ again, state.answer path = .ok again ∧ again.serial = earlier.serial) ↔
              ¬((start tree).run (before ++ [.get path])).WritesFile between path ∧
                ∀ step ∈ between, ¬step.Drops path)) ∧
      (∀ fault, state.tree.find path = .error fault →
        state.answer path =
          match held path (start tree) none steps with
          | some cached => .ok cached
          | none => .error (.catalogNotFound path)) ∧
      (∀ fault, state.answer path = .error fault →
        (state.after (.get path)).cache = state.cache) ∧
      ∀ step other, step.path? = some path → Path.parts other ≠ Path.parts path →
        (state.after step).cache.find? other = state.cache.find? other := by
  intro state
  refine ⟨fun bytes time hFile => ⟨(coherent_run h).answer_of_file hFile, ?_⟩,
    fun fault hMissing => ?_, fun fault hFault => CatalogCache.get_of_error hFault,
    fun step other => state.find?_after_of_ne⟩
  · rintro before between earlier rfl hEarlier
    exact answers_again_iff h hEarlier hFile
  · have hHeld : state.cache.find? path = held path (start tree) none steps := find?_run _ _ _
    have hAnswer : state.answer path = _ := CatalogCache.get_of_missing hMissing
    rw [hHeld] at hAnswer
    exact hAnswer

/-- A catalog that is written anew is loaded anew. -/
theorem answer_run_rewritten :
    let first := "[categories]".toUTF8
    let second := "[categories.x]".toUTF8
    let before : List CacheStep := [.write "c" first 1, .get "./c"]
    let between : List CacheStep := [.write "c" second 2]
    let state := (start (.empty [] 0)).run (before ++ [.get "c"] ++ between)
    (((start (.empty [] 0)).run before).answer "c").isOk = true ∧
      (state.answer "c").map CachedCatalog.catalog = Catalog.loadFrom state.tree "c" ∧
      ∀ earlier, ((start (.empty [] 0)).run before).answer "c" = .ok earlier →
        ¬∃ again, state.answer "c" = .ok again ∧ again.serial = earlier.serial := by
  intro first second before between state
  have hStamps : (start (.empty [] 0)).stamps (before ++ [.get "c"] ++ between) =
      [(["c"], 1), (["c"], 2)] := by decide +kernel
  have hTimed : (start (.empty [] 0)).WellTimed (before ++ [.get "c"] ++ between) := by
    refine ⟨fun location bytes time hFile => ?_, ?_⟩
    · by_cases hRoot : location = []
      · simp [hRoot, FileTree.node?] at hFile
      · simp [hRoot, start, FileTree.empty, FileTree.node?] at hFile
    · rw [hStamps]
      decide
  have hFile : state.tree.find "c" = .ok (.file second 2) := rfl
  have hWrites : ((start (.empty [] 0)).run (before ++ [.get "c"])).WritesFile between "c" :=
    ⟨["c"], 2, rfl, by decide +kernel⟩
  obtain ⟨hPresent, -⟩ := answer_run hTimed "c"
  obtain ⟨hCatalog, hAgain⟩ := hPresent second 2 hFile
  refine ⟨by decide +kernel, hCatalog, fun earlier hEarlier hSame => ?_⟩
  exact ((hAgain before between earlier rfl hEarlier).mp hSame).1 hWrites

end CacheState

end PresetCompiler
