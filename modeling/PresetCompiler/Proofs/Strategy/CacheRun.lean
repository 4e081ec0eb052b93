import PresetCompiler.Proofs.Strategy.CacheGet

/-! Runs of a catalog cache beside the files that it reads. Files are written and removed and
catalogs are asked for and dropped, in any order and over any paths. When each write of a file
carries a later time than every earlier one, a cached catalog that is as old as its file is what
stands there (`CacheState.coherent_run`). -/

namespace PresetCompiler

/-- One step of a run. A write carries the time that the file has afterwards. -/
inductive CacheStep
  | write (path : String) (bytes : ByteArray) (time : Int)
  | delete (path : String)
  | get (path : String)
  | invalidate (path : String)
  | clear

namespace CacheStep

def path? : CacheStep → Option String
  | write path .. | delete path | get path | invalidate path => some path
  | clear => none

/-- Whether a step drops the catalog that is cached for a path. -/
def Drops (path : String) : CacheStep → Prop
  | invalidate other => Path.parts other = Path.parts path
  | clear => True
  | _ => False

end CacheStep

/-- Writes a file, which has the given time afterwards. -/
def FileTree.writeAt (tree : FileTree) (path : String) (bytes : ByteArray) (time : Int) :
    Except FileFault FileTree :=
  { tree with clock := time }.write path bytes

/-- The files and the cache between two steps. -/
structure CacheState where
  tree : FileTree
  cache : CatalogCache

namespace CacheState

def start (tree : FileTree) : CacheState := ⟨tree, .empty⟩

def answer (state : CacheState) (path : String) : Except Fault CachedCatalog :=
  (state.cache.get state.tree path).1

/-- The state after a step. A step that fails changes nothing. -/
def after (state : CacheState) : CacheStep → CacheState
  | .write path bytes time =>
    { state with tree := (FileTree.settle state.tree (state.tree.writeAt path bytes time)).2 }
  | .delete path => { state with tree := (FileTree.settle state.tree (state.tree.remove path)).2 }
  | .get path => { state with cache := (state.cache.get state.tree path).2 }
  | .invalidate path => { state with cache := (state.cache.invalidate path).2 }
  | .clear => { state with cache := state.cache.clear }

def run (state : CacheState) (steps : List CacheStep) : CacheState :=
  steps.foldl after state

/-- The location of the file that a step writes, and its time. -/
def stamp? (state : CacheState) : CacheStep → Option (Location × Int)
  | .write path bytes time =>
    match state.tree.writeAt path bytes time, state.tree.locate path with
    | .ok _, .ok location => some (location, time)
    | _, _ => none
  | _ => none

/-- The files that a run writes, and their times. -/
def stamps (state : CacheState) : List CacheStep → List (Location × Int)
  | [] => []
  | step :: rest => (state.stamp? step).toList ++ (state.after step).stamps rest

/-- Every write of a run carries a later time than all earlier ones of its file. -/
structure WellTimed (state : CacheState) (steps : List CacheStep) : Prop where
  later : ∀ location bytes time, state.tree.node? location = some (.file bytes time) →
    ∀ written, (location, written) ∈ state.stamps steps → time < written
  increasing : (state.stamps steps).Pairwise fun early late => early.1 = late.1 → early.2 < late.2

@[simp] theorem run_nil (state : CacheState) : state.run [] = state := rfl

@[simp] theorem run_cons (state : CacheState) (step : CacheStep) (rest : List CacheStep) :
    state.run (step :: rest) = (state.after step).run rest := rfl

theorem run_append (state : CacheState) (front back : List CacheStep) :
    state.run (front ++ back) = (state.run front).run back :=
  List.foldl_append

theorem stamps_append (state : CacheState) (front back : List CacheStep) :
    state.stamps (front ++ back) = state.stamps front ++ (state.run front).stamps back := by
  induction front generalizing state with
  | nil => rfl
  | cons step rest ih =>
    rw [List.cons_append, stamps, stamps, ih, run_cons, List.append_assoc]

/-! ### Steps on the tree -/

theorem exists_of_writeAt {tree changed : FileTree} {path : String} {bytes : ByteArray} {time : Int}
    (h : tree.writeAt path bytes time = .ok changed) :
    ∃ location, tree.locate path = .ok location ∧ tree.Shrinks changed ∧
      ∀ place, changed.node? place =
        if place = location then some (.file bytes time) else tree.node? place := by
  obtain ⟨location, hRoot, hLocate, -, rfl⟩ := FileTree.exists_of_write h
  have hClock : tree.Shrinks { tree with clock := time } := ⟨rfl, fun _ hSame => hSame⟩
  exact ⟨location, hClock.locate hLocate, hClock.trans (.putFile hRoot bytes),
    fun place => FileTree.node?_putFile hRoot bytes place⟩

/-- What a step can do to the tree: it writes one file, or writes none and may remove some. -/
inductive Effect (state : CacheState) (step : CacheStep) : Prop
  | written (location : Location) (bytes : ByteArray) (time : Int)
      (stamp : state.stamp? step = some (location, time))
      (shrinks : state.tree.Shrinks (state.after step).tree)
      (node : ∀ place, (state.after step).tree.node? place =
        if place = location then some (.file bytes time) else state.tree.node? place)
  | kept (stamp : state.stamp? step = none)
      (shrinks : state.tree.Shrinks (state.after step).tree)
      (node : ∀ place node, (state.after step).tree.node? place = some node →
        state.tree.node? place = some node)

theorem effect (state : CacheState) (step : CacheStep) : state.Effect step := by
  have hSame (h : state.stamp? step = none) (hTree : (state.after step).tree = state.tree) :
      state.Effect step :=
    .kept h (hTree ▸ .refl _) fun _ _ hNode => hTree ▸ hNode
  cases step with
  | write path bytes time =>
    cases hWrite : state.tree.writeAt path bytes time with
    | error fault =>
      exact hSame (by simp [stamp?, hWrite]) (by simp [after, hWrite, FileTree.settle])
    | ok changed =>
      obtain ⟨location, hLocate, hShrinks, hNode⟩ := exists_of_writeAt hWrite
      have hTree : (state.after (.write path bytes time)).tree = changed := by
        simp [after, hWrite, FileTree.settle]
      refine .written location bytes time (by simp [stamp?, hWrite, hLocate]) ?_ ?_
      · rwa [hTree]
      · rwa [hTree]
  | delete path =>
    cases hRemove : state.tree.remove path with
    | error fault => exact hSame rfl (by simp [after, hRemove, FileTree.settle])
    | ok changed =>
      obtain ⟨location, -, rfl⟩ := FileTree.exists_of_remove hRemove
      have hTree : (state.after (.delete path)).tree = state.tree.erase location := by
        simp [after, hRemove, FileTree.settle]
      refine .kept rfl ?_ ?_
      · rw [hTree]
        exact .erase state.tree location
      · rw [hTree]
        exact fun _ _ => FileTree.node?_of_erase
  | get path => exact hSame rfl rfl
  | invalidate path => exact hSame rfl rfl
  | clear => exact hSame rfl rfl

theorem shrinks_after (state : CacheState) (step : CacheStep) :
    state.tree.Shrinks (state.after step).tree := by
  cases state.effect step with
  | written _ _ _ _ shrinks _ => exact shrinks
  | kept _ shrinks _ => exact shrinks

theorem shrinks_run (state : CacheState) (steps : List CacheStep) :
    state.tree.Shrinks (state.run steps).tree := by
  induction steps generalizing state with
  | nil => exact .refl state.tree
  | cons step rest ih => exact (state.shrinks_after step).trans (ih (state.after step))

/-- A file that a run does not write was there before, as it is afterwards. -/
theorem node?_of_unwritten {state : CacheState} {steps : List CacheStep} {location : Location}
    {node : FileNode} (hUnwritten : ∀ time, (location, time) ∉ state.stamps steps)
    (h : (state.run steps).tree.node? location = some node) :
    state.tree.node? location = some node := by
  induction steps generalizing state with
  | nil => exact h
  | cons step rest ih =>
    have hNext := ih (fun time hMem => hUnwritten time (List.mem_append_right _ hMem)) h
    cases state.effect step with
    | written other bytes time stamp _ hNode =>
      have hne : location ≠ other := by
        rintro rfl
        exact hUnwritten time (List.mem_append_left _ (by simp [stamp]))
      rwa [hNode, if_neg hne] at hNext
    | kept _ _ hNode => exact hNode location node hNext

/-! ### The cache and the files -/

/-- What holds in the course of a run, of the times that its files have had so far. A file has the
latest of its times. A cached catalog was loaded from its file at one of them, and if that is still
the time of the file, the catalog is what stands there. -/
structure Coherent (seen : Location → Int → Prop) (state : CacheState) : Prop where
  file : ∀ {location bytes time}, state.tree.node? location = some (.file bytes time) →
    seen location time ∧ ∀ earlier, seen location earlier → earlier ≤ time
  entry : ∀ {path cached location}, state.cache.find? path = some cached →
    state.tree.locate path = .ok location →
      ∃ time, cached.modified = some time ∧ seen location time ∧
        ∀ bytes, state.tree.node? location = some (.file bytes time) →
          Catalog.ofBytes bytes = .ok cached.catalog
  serial : ∀ {path cached}, state.cache.find? path = some cached → cached.serial < state.cache.loads

namespace Coherent

variable {seen : Location → Int → Prop} {state : CacheState} (h : Coherent seen state)
include h

theorem of_kept {tree : FileTree} (hShrinks : state.tree.Shrinks tree)
    (hNode : ∀ place node, tree.node? place = some node → state.tree.node? place = some node) :
    Coherent seen { state with tree } := by
  refine ⟨fun hFile => h.file (hNode _ _ hFile), fun hFind hLocate => ?_, h.serial⟩
  obtain ⟨time, hModified, hSeen, hContent⟩ := h.entry hFind (hShrinks.locate hLocate)
  exact ⟨time, hModified, hSeen, fun bytes hFile => hContent bytes (hNode _ _ hFile)⟩

theorem of_written {tree : FileTree} {written : Location} {content : ByteArray} {now : Int}
    (hShrinks : state.tree.Shrinks tree)
    (hNode : ∀ place, tree.node? place =
      if place = written then some (.file content now) else state.tree.node? place)
    (hLater : ∀ earlier, seen written earlier → earlier < now) :
    Coherent (fun location time => seen location time ∨ some (written, now) = some (location, time))
      { state with tree } := by
  refine ⟨fun {location bytes time} hFile => ?_, fun {path cached location} hFind hLocate => ?_,
    h.serial⟩
  · rw [hNode] at hFile
    split at hFile
    · rename_i hHere
      cases hFile
      subst hHere
      refine ⟨.inr rfl, fun earlier hEarlier => ?_⟩
      rcases hEarlier with hSeen | hSame
      · exact Int.le_of_lt (hLater earlier hSeen)
      · cases hSame
        exact Int.le_refl _
    · rename_i hOther
      obtain ⟨hSeen, hMax⟩ := h.file hFile
      refine ⟨.inl hSeen, fun earlier hEarlier => ?_⟩
      rcases hEarlier with hEarlier | hSame
      · exact hMax earlier hEarlier
      · cases hSame
        contradiction
  · obtain ⟨time, hModified, hSeen, hContent⟩ := h.entry hFind (hShrinks.locate hLocate)
    refine ⟨time, hModified, .inl hSeen, fun bytes hFile => ?_⟩
    rw [hNode] at hFile
    split at hFile
    · -- The file was written again, at a later time than that of the catalog.
      rename_i hHere
      cases hFile
      subst hHere
      exact absurd (hLater _ hSeen) (Int.lt_irrefl _)
    · exact hContent bytes hFile

theorem of_dropped {cache : CatalogCache} (hLoads : cache.loads = state.cache.loads)
    (hFind : ∀ path cached, cache.find? path = some cached →
      state.cache.find? path = some cached) : Coherent seen { state with cache } := by
  refine ⟨h.file, fun hCached hLocate => h.entry (hFind _ _ hCached) hLocate, fun hCached => ?_⟩
  have hLess := h.serial (hFind _ _ hCached)
  simpa only [hLoads] using hLess

theorem of_loaded {path : String} {catalog : Catalog}
    (hLoad : Catalog.loadFrom state.tree path = .ok catalog) :
    Coherent seen
      { state with cache := (state.cache.insert path catalog (state.tree.modified? path)).2 } := by
  obtain ⟨bytes, time, hFind, hCatalog⟩ := Catalog.exists_of_loadFrom hLoad
  have hModified : state.tree.modified? path = some time := by
    rw [FileTree.modified?, hFind]
  rw [hModified]
  refine ⟨h.file, fun {other cached location} hCached hLocate => ?_,
    fun {other cached} hCached => ?_⟩
  · rw [CatalogCache.find?_insert] at hCached
    split at hCached
    · rename_i hParts
      -- Two spellings of one path lead to one location, so that this is the file just loaded.
      obtain ⟨place, hPlace, hNode⟩ := FileTree.exists_of_find hFind
      obtain rfl := FileTree.location_eq_of_parts hParts hLocate hPlace
      cases hCached
      refine ⟨time, rfl, (h.file hNode).1, fun content hContent => ?_⟩
      have hBoth := hContent.symm.trans hNode
      cases hBoth
      exact hCatalog
    · exact h.entry hCached hLocate
  · rw [CatalogCache.find?_insert] at hCached
    split at hCached
    · cases hCached
      exact Nat.lt_succ_self _
    · exact Nat.lt_succ_of_lt (h.serial hCached)

theorem get (path : String) : Coherent seen (state.after (.get path)) := by
  rw [after]
  cases state.cache.outcome state.tree path with
  | fresh _ _ _ answer => rwa [answer]
  | failed _ _ _ answer => rwa [answer]
  | loaded catalog load _ answer =>
    rw [answer]
    exact h.of_loaded load

theorem of_effect {step : CacheStep} (hCache : (state.after step).cache = state.cache)
    (hLater : ∀ location time, state.stamp? step = some (location, time) →
      ∀ earlier, seen location earlier → earlier < time) :
    Coherent (fun location time => seen location time ∨ state.stamp? step = some (location, time))
      (state.after step) := by
  have hState : state.after step = { state with tree := (state.after step).tree } := by
    rw [← hCache]
  rw [hState]
  cases state.effect step with
  | written location bytes time stamp shrinks node =>
    rw [stamp]
    exact h.of_written shrinks node (hLater location time stamp)
  | kept stamp shrinks node => simpa [stamp] using h.of_kept shrinks node

/-- One step keeps the cache coherent, when a write has a later time than those before. -/
theorem step {step : CacheStep}
    (hLater : ∀ location time, state.stamp? step = some (location, time) →
      ∀ earlier, seen location earlier → earlier < time) :
    Coherent (fun location time => seen location time ∨ state.stamp? step = some (location, time))
      (state.after step) := by
  cases step with
  | write path bytes time => exact h.of_effect rfl hLater
  | delete path => exact h.of_effect rfl hLater
  | get path => simpa [stamp?] using h.get path
  | invalidate path =>
    have hDropped : Coherent seen (state.after (.invalidate path)) :=
      h.of_dropped rfl fun other cached hFind => by
        rw [CatalogCache.find?_invalidate] at hFind
        split at hFind
        · contradiction
        · exact hFind
    simpa [stamp?] using hDropped
  | clear =>
    have hDropped : Coherent seen (state.after .clear) :=
      h.of_dropped rfl fun other cached hFind => by
        simp [CatalogCache.find?, CatalogCache.clear] at hFind
    simpa [stamp?] using hDropped

theorem run {steps : List CacheStep}
    (hLater : ∀ location time, (location, time) ∈ state.stamps steps →
      ∀ earlier, seen location earlier → earlier < time)
    (hIncreasing : (state.stamps steps).Pairwise fun early late =>
      early.1 = late.1 → early.2 < late.2) :
    Coherent (fun location time => seen location time ∨ (location, time) ∈ state.stamps steps)
      (state.run steps) := by
  -- The times seen so far grow with every write, so that they vary with the state.
  induction steps generalizing state seen with
  | nil => simpa [stamps] using h
  | cons step rest ih =>
    have hHere (location : Location) (time : Int)
        (hStamp : state.stamp? step = some (location, time)) :
        (location, time) ∈ state.stamps (step :: rest) :=
      List.mem_append_left _ (by simp [hStamp])
    have hStep := h.step fun location time hStamp =>
      hLater location time (hHere location time hStamp)
    rw [stamps, List.pairwise_append] at hIncreasing
    obtain ⟨-, hRest, hBetween⟩ := hIncreasing
    have hRun := ih hStep (fun location time hMem earlier hEarlier => ?_) hRest
    · simpa [stamps, or_assoc] using hRun
    · rcases hEarlier with hSeen | hStamp
      · exact hLater location time (List.mem_append_right _ hMem) earlier hSeen
      · exact hBetween (location, earlier) (by simp [hStamp]) (location, time) hMem rfl

end Coherent

/-- A time that a file has had by the end of a run. -/
def Seen (state : CacheState) (steps : List CacheStep) (location : Location) (time : Int) : Prop :=
  (∃ bytes, state.tree.node? location = some (.file bytes time)) ∨
    (location, time) ∈ state.stamps steps

theorem coherent_run {tree : FileTree} {steps : List CacheStep}
    (h : (start tree).WellTimed steps) :
    Coherent ((start tree).Seen steps) ((start tree).run steps) := by
  have hStart : Coherent
      (fun location time => ∃ bytes, tree.node? location = some (.file bytes time))
      (start tree) := by
    refine ⟨fun {location bytes time} hFile => ⟨⟨bytes, hFile⟩, ?_⟩, fun hFind => ?_,
      fun hFind => ?_⟩
    · rintro earlier ⟨content, hContent⟩
      have hBoth := hContent.symm.trans hFile
      cases hBoth
      exact Int.le_refl _
    · simp [start, CatalogCache.find?, CatalogCache.empty] at hFind
    · simp [start, CatalogCache.find?, CatalogCache.empty] at hFind
  refine hStart.run (fun location time hMem earlier hEarlier => ?_) h.increasing
  obtain ⟨bytes, hFile⟩ := hEarlier
  exact h.later location bytes earlier hFile time hMem

end CacheState

end PresetCompiler
