import Mathlib.Data.List.Sort
import PresetCompiler.Proofs.Filter.Switches

/-! The order of the passes of a pipeline. A pass is put in behind those of its own priority, so
that after any number of additions the passes are the stable sort of all that were given
(`IsStableSort.place` for one more pass, `passes_stableSort` for all of them). There is only one
such order, and the order in which passes of distinct priorities were added is lost. -/

namespace PresetCompiler

/-- Passes by ascending priority. -/
def InOrder (passes : List TokenPass) : Prop :=
  passes.Pairwise fun a b => a.priority ≤ b.priority

/-- The passes of one priority. -/
def ofPriority (priority : Nat) (passes : List TokenPass) : List TokenPass :=
  passes.filter fun pass => pass.priority = priority

theorem ofPriority_cons (priority : Nat) (pass : TokenPass) (rest : List TokenPass) :
    ofPriority priority (pass :: rest) =
      if pass.priority = priority then pass :: ofPriority priority rest
      else ofPriority priority rest := by
  simp [ofPriority, List.filter_cons]

theorem mem_ofPriority {priority : Nat} {pass : TokenPass} {passes : List TokenPass} :
    pass ∈ ofPriority priority passes ↔ pass ∈ passes ∧ pass.priority = priority := by
  simp [ofPriority]

/-- The given passes, each as often as it was given, by ascending priority; those of one priority
keep the order in which they were given. -/
structure IsStableSort (given sorted : List TokenPass) : Prop where
  perm : sorted.Perm given
  inOrder : InOrder sorted
  ties (priority : Nat) : ofPriority priority sorted = ofPriority priority given

/-! ### There is one stable sort -/

theorem head_le_of_ties {a b : TokenPass} {as bs : List TokenPass} (h : InOrder (a :: as))
    (hTies : ∀ priority, ofPriority priority (a :: as) = ofPriority priority (b :: bs)) :
    a.priority ≤ b.priority := by
  have hMem : b ∈ ofPriority b.priority (a :: as) := by
    rw [hTies]
    exact mem_ofPriority.mpr ⟨List.mem_cons_self, rfl⟩
  rcases List.mem_cons.mp (mem_ofPriority.mp hMem).1 with rfl | hLater
  · exact Nat.le_refl _
  · exact List.rel_of_pairwise_cons h hLater

/-- Passes in order are determined by those of each priority. -/
theorem eq_of_ties {as bs : List TokenPass} (ha : InOrder as) (hb : InOrder bs)
    (hTies : ∀ priority, ofPriority priority as = ofPriority priority bs) : as = bs := by
  induction as generalizing bs with
  | nil =>
    cases bs with
    | nil => rfl
    | cons b bs =>
      have hNone := hTies b.priority
      rw [ofPriority_cons, if_pos rfl] at hNone
      contradiction
  | cons a as ih =>
    cases bs with
    | nil =>
      have hNone := hTies a.priority
      rw [ofPriority_cons, if_pos rfl] at hNone
      contradiction
    | cons b bs =>
      have hSame : a.priority = b.priority :=
        Nat.le_antisymm (head_le_of_ties ha hTies)
          (head_le_of_ties hb fun priority => (hTies priority).symm)
      have hFirst := hTies a.priority
      rw [ofPriority_cons, ofPriority_cons, if_pos rfl, if_pos hSame.symm] at hFirst
      obtain rfl := (List.cons.inj hFirst).1
      refine congrArg (a :: ·) (ih ha.of_cons hb.of_cons fun priority => ?_)
      have hHere := hTies priority
      rw [ofPriority_cons, ofPriority_cons] at hHere
      split at hHere
      · exact (List.cons.inj hHere).2
      · exact hHere

theorem IsStableSort.unique {given as bs : List TokenPass} (ha : IsStableSort given as)
    (hb : IsStableSort given bs) : as = bs :=
  eq_of_ties ha.inOrder hb.inOrder fun priority => (ha.ties priority).trans (hb.ties priority).symm

/-- Whether a pass does not have to run behind another. -/
def runsBefore (a b : TokenPass) : Bool :=
  a.priority ≤ b.priority

theorem isStableSort_mergeSort (given : List TokenPass) :
    IsStableSort given (given.mergeSort runsBefore) := by
  have hTrans (a b c : TokenPass) (hab : runsBefore a b = true) (hbc : runsBefore b c = true) :
      runsBefore a c = true := by
    simp only [runsBefore, decide_eq_true_eq] at hab hbc ⊢
    omega
  have hTotal (a b : TokenPass) : (runsBefore a b || runsBefore b a) = true := by
    simp only [runsBefore, Bool.or_eq_true, decide_eq_true_eq]
    omega
  have hPerm := List.mergeSort_perm given runsBefore
  refine ⟨hPerm, ?_, fun priority => ?_⟩
  · simpa [InOrder, runsBefore] using List.pairwise_mergeSort hTrans hTotal given
  · -- Passes of one priority are in order, so that they stay a sublist.
    have hInOrder : (ofPriority priority given).Pairwise fun a b => runsBefore a b = true := by
      refine List.pairwise_of_forall_mem_list fun a ha b hb => ?_
      have hPriority := (mem_ofPriority.mp ha).2.trans (mem_ofPriority.mp hb).2.symm
      exact decide_eq_true (Nat.le_of_eq hPriority)
    have hSublist := (List.sublist_mergeSort hTrans hTotal hInOrder List.filter_sublist).filter
      fun pass => decide (pass.priority = priority)
    rw [ofPriority, List.filter_filter] at hSublist
    simp only [Bool.and_self] at hSublist
    exact (hSublist.eq_of_length (hPerm.filter _).length_eq.symm).symm

/-! ### One more pass -/

namespace Pipeline

theorem perm_place (pass : TokenPass) (passes : List TokenPass) :
    (place pass passes).Perm (pass :: passes) := by
  induction passes with
  | nil => exact List.Perm.refl _
  | cons first rest ih =>
    rw [place]
    split
    · exact List.Perm.refl _
    · exact (ih.cons first).trans (List.Perm.swap pass first rest)

theorem inOrder_place {passes : List TokenPass} (h : InOrder passes) (pass : TokenPass) :
    InOrder (place pass passes) := by
  induction passes with
  | nil => exact List.pairwise_singleton _ _
  | cons first rest ih =>
    obtain ⟨hFirst, hRest⟩ := List.pairwise_cons.mp h
    rw [place]
    split
    · rename_i hLess
      refine List.pairwise_cons.mpr ⟨fun later hLater => ?_, h⟩
      rcases List.mem_cons.mp hLater with rfl | hLater
      · exact Nat.le_of_lt hLess
      · exact Nat.le_trans (Nat.le_of_lt hLess) (hFirst later hLater)
    · rename_i hNotLess
      refine List.pairwise_cons.mpr ⟨fun later hLater => ?_, ih hRest⟩
      rcases List.mem_cons.mp ((perm_place pass rest).mem_iff.mp hLater) with rfl | hLater
      · exact Nat.le_of_not_lt hNotLess
      · exact hFirst later hLater

/-- A pass is put in behind the others of its priority. -/
theorem ofPriority_place {passes : List TokenPass} (h : InOrder passes) (pass : TokenPass)
    (priority : Nat) :
    ofPriority priority (place pass passes) =
      ofPriority priority passes ++ ofPriority priority [pass] := by
  induction passes with
  | nil => rfl
  | cons first rest ih =>
    obtain ⟨hFirst, hRest⟩ := List.pairwise_cons.mp h
    rw [place]
    split
    · rename_i hLess
      rw [ofPriority_cons, ofPriority_cons priority pass []]
      split
      · rename_i hSame
        -- All passes from here on have a greater priority.
        have hNone : ofPriority priority (first :: rest) = [] := by
          refine List.filter_eq_nil_iff.mpr fun later hLater => ?_
          rw [decide_eq_true_eq]
          rcases List.mem_cons.mp hLater with rfl | hLater
          · omega
          · have := hFirst later hLater
            omega
        rw [hNone]
        rfl
      · exact (List.append_nil _).symm
    · rw [ofPriority_cons, ofPriority_cons priority first, ih hRest]
      split
      · exact (List.cons_append ..).symm
      · rfl

end Pipeline

theorem IsStableSort.place {given sorted : List TokenPass} (h : IsStableSort given sorted)
    (pass : TokenPass) : IsStableSort (given ++ [pass]) (Pipeline.place pass sorted) where
  perm := (Pipeline.perm_place pass sorted).trans
    ((h.perm.cons pass).trans (List.perm_append_singleton pass given).symm)
  inOrder := Pipeline.inOrder_place h.inOrder pass
  ties priority := by
    rw [Pipeline.ofPriority_place h.inOrder, h.ties, ofPriority, ofPriority, ofPriority,
      List.filter_append]

namespace Pipeline

theorem isStableSort_self {passes : List TokenPass} (h : InOrder passes) :
    IsStableSort passes passes :=
  ⟨List.Perm.refl _, h, fun _ => rfl⟩

/-- To put a pass in behind the last one that has to run before it is to put it at the end and sort
the passes again. -/
theorem place_eq_mergeSort {passes : List TokenPass} (h : InOrder passes) (pass : TokenPass) :
    place pass passes = (passes ++ [pass]).mergeSort runsBefore :=
  ((isStableSort_self h).place pass).unique (isStableSort_mergeSort _)

/-! ### All passes -/

theorem isStableSort_foldl_add {pipeline : Pipeline} {given : List TokenPass}
    (h : IsStableSort given pipeline.passes) (added : List TokenPass) :
    IsStableSort (given ++ added) (added.foldl add pipeline).passes := by
  induction added generalizing pipeline given with
  | nil => rwa [List.append_nil]
  | cons pass rest ih =>
    rw [← List.singleton_append, ← List.append_assoc]
    exact ih (h.place pass)

theorem isStableSort_empty : IsStableSort [] empty.passes :=
  isStableSort_self List.Pairwise.nil

/-- The pipeline that passes are added to: the empty one, or that of some settings. -/
def starting : Option FilterSettings → Pipeline
  | none => empty
  | some settings => ofSettings settings

theorem ofSettings_eq (settings : FilterSettings) :
    ofSettings settings =
      (settings.switches.map (Switch.pass settings.wildcardPortMatches)).foldl add empty := by
  obtain ⟨hostlists, ipsets, zones, sizes, wildcard⟩ := settings
  cases hostlists <;> cases ipsets <;> cases zones <;> cases sizes <;> rfl

theorem inOrder_starting (settings : Option FilterSettings) : InOrder (starting settings).passes := by
  cases settings with
  | none => exact List.Pairwise.nil
  | some settings =>
    rw [starting, ofSettings_eq]
    exact (isStableSort_foldl_add isStableSort_empty _).inOrder

/-- The built-in passes have distinct priorities. -/
theorem eq_of_priority_pass {a b : Switch} {wildcard : Bool}
    (h : (a.pass wildcard).priority = (b.pass wildcard).priority) : a = b := by
  revert h
  cases a <;> cases b <;> simp [Switch.pass, TokenPass.removeHostlists, TokenPass.removeIpsets,
    TokenPass.allzone, TokenPass.wssize]

theorem foldl_add_pass_perm {order sequence : List Switch} (h : order.Perm sequence)
    (wildcard : Bool) :
    (order.map (Switch.pass wildcard)).foldl add empty =
      (sequence.map (Switch.pass wildcard)).foldl add empty := by
  have hOrder := isStableSort_foldl_add isStableSort_empty (order.map (Switch.pass wildcard))
  have hSequence := isStableSort_foldl_add isStableSort_empty (sequence.map (Switch.pass wildcard))
  rw [List.nil_append] at hOrder hSequence
  have hPerm := hOrder.perm.trans ((h.map (Switch.pass wildcard)).trans hSequence.perm.symm)
  have hPasses := List.Perm.eq_of_pairwise (fun a b ha hb hab hba => ?_) hOrder.inOrder
    hSequence.inOrder hPerm
  · exact congrArg Pipeline.mk hPasses
  · obtain ⟨first, -, rfl⟩ := List.mem_map.mp (hOrder.perm.mem_iff.mp ha)
    obtain ⟨second, -, rfl⟩ := List.mem_map.mp (hSequence.perm.mem_iff.mp hb)
    rw [eq_of_priority_pass (Nat.le_antisymm hab hba)]

/-- After any number of additions a pipeline holds the passes it started with and all that were
added, sorted by priority, and those of one priority in the order of their addition, behind those
that were there at the start. No other list is of that kind, and it is the stable sort of the passes
in the order in which they came. A run applies each of them once, in that order. So the built-in
passes that settings switch on give the pipeline of these settings in whatever order they are
added. -/
theorem passes_stableSort (settings : Option FilterSettings) (added : List TokenPass) :
    let given := (starting settings).passes ++ added
    let pipeline := added.foldl add (starting settings)
    (∀ passes, IsStableSort given passes ↔ passes = pipeline.passes) ∧
    pipeline.passes = given.mergeSort runsBefore ∧
    (∀ tokens, pipeline.run tokens =
      (given.mergeSort runsBefore).foldl (fun tokens pass => pass.apply tokens) tokens) ∧
    ∀ (built : FilterSettings) (order : List Switch), order.Perm built.switches →
      (order.map (Switch.pass built.wildcardPortMatches)).foldl add empty = ofSettings built := by
  intro given pipeline
  have hStable : IsStableSort given pipeline.passes :=
    isStableSort_foldl_add (isStableSort_self (inOrder_starting settings)) added
  have hSort : pipeline.passes = given.mergeSort runsBefore :=
    hStable.unique (isStableSort_mergeSort given)
  refine ⟨fun passes => ⟨fun h => h.unique hStable, fun h => h ▸ hStable⟩, hSort, fun tokens => ?_,
    fun built order hOrder => ?_⟩
  · rw [run, hSort]
  · rw [ofSettings_eq, foldl_add_pass_perm hOrder]

/-- Two passes are added to the pipeline of settings: one has the priority of a pass that is there
already and comes behind it, the other names no priority and comes last. -/
theorem passes_stableSort_ties :
    let tag (name : String) (priority : Nat) : TokenPass :=
      { name, priority, apply := fun tokens => tokens ++ [name] }
    let settings := { FilterSettings.off with removeIpsets := true, allzone := true }
    let added := [tag "last" defaultPriority, tag "second" 20]
    IsStableSort ((ofSettings settings).passes ++ added)
        [.removeIpsets, tag "second" 20, .allzone, tag "last" defaultPriority] ∧
      (added.foldl add (ofSettings settings)).run ["--ipset=a"] = ["second", "last"] ∧
      [TokenPass.allzone, .removeIpsets].foldl add empty = ofSettings settings := by
  intro tag settings added
  obtain ⟨hOnly, -, -, hBuilt⟩ := passes_stableSort (some settings) added
  have hOrder : [Switch.allzone, .removeIpsets].Perm settings.switches := List.Perm.swap ..
  exact ⟨(hOnly _).mpr rfl, by decide +kernel, hBuilt settings _ hOrder⟩

end Pipeline

end PresetCompiler
