import Mathlib.Data.List.Dedup
import Mathlib.Data.List.Perm.Basic
import PresetCompiler.Proofs.Filter.WindowSizes

/-! Passes in any order. Any two of the passes that settings switch on commute, and none of them
does more when it runs again, so that only which of them ran makes a difference. -/

namespace PresetCompiler

/-! ### Two passes -/

theorem unlessLead_bind_unlessLead (leads others : List String) (token : String) :
    (unlessLead leads token).bind (unlessLead others) =
      (unlessLead others token).bind (unlessLead leads) := by
  cases hLead : hasLead leads token <;> cases hOther : hasLead others token <;>
    simp [unlessLead, Option.guard, hLead, hOther]

theorem unlessLead_bind_self (leads : List String) (token : String) :
    (unlessLead leads token).bind (unlessLead leads) = unlessLead leads token := by
  cases hLead : hasLead leads token <;> simp [unlessLead, Option.guard, hLead]

theorem unlessLead_bind_widenToken {leads : List String} {token : String}
    (h : hasLead leads (widenToken token) = hasLead leads token) :
    (unlessLead leads token).bind (fun kept => some (widenToken kept)) =
      unlessLead leads (widenToken token) := by
  cases hLead : hasLead leads token <;> simp [unlessLead, Option.guard, h, hLead]

namespace Switch

theorem change_bind_change : ∀ (first second : Switch) (token : String),
    (first.change token).bind second.change = (second.change token).bind first.change
  | removeHostlists, removeHostlists, _ | removeIpsets, removeIpsets, _ | allzone, allzone, _ => rfl
  | removeHostlists, removeIpsets, token | removeIpsets, removeHostlists, token =>
    unlessLead_bind_unlessLead _ _ token
  | removeHostlists, allzone, token =>
    unlessLead_bind_widenToken (hasLead_hostlistLeads_widenToken token)
  | allzone, removeHostlists, token =>
    (unlessLead_bind_widenToken (hasLead_hostlistLeads_widenToken token)).symm
  | removeIpsets, allzone, token => unlessLead_bind_widenToken (hasLead_ipsetLeads_widenToken token)
  | allzone, removeIpsets, token =>
    (unlessLead_bind_widenToken (hasLead_ipsetLeads_widenToken token)).symm
  | wssize, second, token => (Option.bind_fun_some (second.change token)).symm
  | first, wssize, token => Option.bind_fun_some (first.change token)

theorem change_bind_self (switch : Switch) (token : String) :
    (switch.change token).bind switch.change = switch.change token := by
  cases switch with
  | removeHostlists => exact unlessLead_bind_self _ token
  | removeIpsets => exact unlessLead_bind_self _ token
  | allzone => exact congrArg some (widenToken_widenToken token)
  | wssize => rfl

section Apply

variable (wildcard : Bool)

theorem apply_pass_comm (first second : Switch) (tokens : List String) :
    (second.pass wildcard).apply ((first.pass wildcard).apply tokens) =
      (first.pass wildcard).apply ((second.pass wildcard).apply tokens) := by
  by_cases hFirst : first = wssize
  · by_cases hSecond : second = wssize
    · rw [hFirst, hSecond]
    · subst hFirst
      rw [apply_pass_of_ne hSecond, apply_pass_of_ne hSecond, apply_pass_wssize]
      exact (setWindowSizes_filterMap second.changesTargets_change _ _).symm
  · by_cases hSecond : second = wssize
    · subst hSecond
      rw [apply_pass_of_ne hFirst, apply_pass_of_ne hFirst, apply_pass_wssize]
      exact setWindowSizes_filterMap first.changesTargets_change _ _
    · rw [apply_pass_of_ne hFirst, apply_pass_of_ne hFirst, apply_pass_of_ne hSecond,
        apply_pass_of_ne hSecond, List.filterMap_filterMap, List.filterMap_filterMap]
      exact List.filterMap_congr fun token _ => change_bind_change first second token

theorem apply_pass_idem (switch : Switch) (tokens : List String) :
    (switch.pass wildcard).apply ((switch.pass wildcard).apply tokens) =
      (switch.pass wildcard).apply tokens := by
  by_cases h : switch = wssize
  · subst h
    rw [apply_pass_wssize]
    exact setWindowSizes_setWindowSizes _ tokens
  · rw [apply_pass_of_ne h, apply_pass_of_ne h, List.filterMap_filterMap]
    exact List.filterMap_congr fun token _ => change_bind_self switch token

instance : RightCommutative fun tokens (switch : Switch) => (switch.pass wildcard).apply tokens :=
  ⟨fun tokens first second => apply_pass_comm wildcard first second tokens⟩

end Apply

end Switch

/-! ### Sequences of passes -/

section Sequence

variable (wildcard : Bool)

theorem runSwitches_append (front back : List Switch) (tokens : List String) :
    runSwitches wildcard (front ++ back) tokens =
      runSwitches wildcard back (runSwitches wildcard front tokens) :=
  List.foldl_append

theorem runSwitches_perm {first second : List Switch} (h : first.Perm second)
    (tokens : List String) :
    runSwitches wildcard first tokens = runSwitches wildcard second tokens :=
  h.foldl_eq tokens

/-- A pass that runs again later may be left out. -/
theorem runSwitches_cons_of_mem {switch : Switch} {rest : List Switch} (h : switch ∈ rest)
    (tokens : List String) :
    runSwitches wildcard (switch :: rest) tokens = runSwitches wildcard rest tokens := by
  -- The later run is brought to the front, where it follows the one that is left out.
  have hFront : rest.Perm (switch :: rest.erase switch) := List.perm_cons_erase h
  have hTwice : (switch :: rest).Perm (switch :: switch :: rest.erase switch) := hFront.cons switch
  rw [runSwitches_perm wildcard hTwice, runSwitches_perm wildcard hFront]
  simp only [runSwitches, List.foldl_cons, Switch.apply_pass_idem]

theorem runSwitches_dedup (sequence : List Switch) (tokens : List String) :
    runSwitches wildcard sequence.dedup tokens = runSwitches wildcard sequence tokens := by
  induction sequence generalizing tokens with
  | nil => rfl
  | cons switch rest ih =>
    by_cases hMem : switch ∈ rest
    · rw [List.dedup_cons_of_mem hMem, ih, runSwitches_cons_of_mem wildcard hMem]
    · rw [List.dedup_cons_of_notMem hMem]
      exact ih _

/-- Sequences of the same passes do the same, whatever their order and repetitions. -/
theorem runSwitches_congr {first second : List Switch}
    (h : ∀ switch, switch ∈ first ↔ switch ∈ second) (tokens : List String) :
    runSwitches wildcard first tokens = runSwitches wildcard second tokens := by
  have hPerm : first.dedup.Perm second.dedup :=
    (List.perm_ext_iff_of_nodup (List.nodup_dedup first) (List.nodup_dedup second)).mpr fun switch =>
      by rw [List.mem_dedup, List.mem_dedup, h]
  rw [← runSwitches_dedup, runSwitches_perm wildcard hPerm, runSwitches_dedup]

end Sequence

namespace FilterSettings

/-- The settings that have exactly the given switches on. -/
def ofSwitches (wildcard : Bool) (on : List Switch) : FilterSettings :=
  { removeHostlists := Switch.removeHostlists ∈ on
    removeIpsets := Switch.removeIpsets ∈ on
    allzone := Switch.allzone ∈ on
    wssize := Switch.wssize ∈ on
    wildcardPortMatches := wildcard }

/-- The settings that have a switch on when one of two settings has. -/
def join (settings extra : FilterSettings) : FilterSettings :=
  { removeHostlists := settings.removeHostlists || extra.removeHostlists
    removeIpsets := settings.removeIpsets || extra.removeIpsets
    allzone := settings.allzone || extra.allzone
    wssize := settings.wssize || extra.wssize
    wildcardPortMatches := settings.wildcardPortMatches }

/-- The tokens after the pass behind one switch, when the settings have it on. -/
def applySwitch (settings : FilterSettings) (tokens : List String) : Switch → List String
  | .removeHostlists => settings.applyRemoveHostlists tokens
  | .removeIpsets => settings.applyRemoveIpsets tokens
  | .allzone => settings.applyAllzone tokens
  | .wssize => settings.applyWssize tokens

theorem mem_switches_ofSwitches {wildcard : Bool} {on : List Switch} {switch : Switch} :
    switch ∈ (ofSwitches wildcard on).switches ↔ switch ∈ on := by
  rw [mem_switches]
  cases switch <;> exact decide_eq_true_iff

theorem mem_switches_join {settings extra : FilterSettings} {switch : Switch} :
    switch ∈ (settings.join extra).switches ↔
      switch ∈ settings.switches ∨ switch ∈ extra.switches := by
  rw [mem_switches, mem_switches, mem_switches, ← Bool.or_eq_true]
  cases switch <;> rfl

theorem applySwitch_eq (settings : FilterSettings) (tokens : List String) (switch : Switch) :
    settings.applySwitch tokens switch =
      if switch.isOn settings then (switch.pass settings.wildcardPortMatches).apply tokens
      else tokens := by
  cases switch <;> rfl

theorem foldl_applySwitch (settings : FilterSettings) (order : List Switch)
    (tokens : List String) :
    order.foldl settings.applySwitch tokens =
      runSwitches settings.wildcardPortMatches (order.filter fun switch => switch.isOn settings)
        tokens := by
  rw [runSwitches, List.foldl_filter]
  congr 1
  funext tokens switch
  exact settings.applySwitch_eq tokens switch

/-- The steps that look at the settings may be taken in any order and more than once each. -/
theorem foldl_applySwitch_of_mem (settings : FilterSettings) {order : List Switch}
    (h : ∀ switch, switch ∈ order) (tokens : List String) :
    order.foldl settings.applySwitch tokens = settings.applyAll tokens := by
  rw [foldl_applySwitch, applyAll_eq_runSwitches]
  refine runSwitches_congr _ (fun switch => ?_) tokens
  rw [List.mem_filter, mem_switches]
  exact and_iff_right (h switch)

theorem applyAll_applyAll {settings extra : FilterSettings}
    (h : extra.wildcardPortMatches = settings.wildcardPortMatches) (tokens : List String) :
    extra.applyAll (settings.applyAll tokens) = (settings.join extra).applyAll tokens := by
  rw [settings.applyAll_eq_runSwitches, extra.applyAll_eq_runSwitches, h, ← runSwitches_append,
    applyAll_eq_runSwitches]
  refine runSwitches_congr _ (fun switch => ?_) tokens
  rw [List.mem_append, mem_switches_join]

theorem join_self (settings : FilterSettings) : settings.join settings = settings := by
  simp [join]

end FilterSettings

/-- A sequence of passes does what all the passes that occur in it do when they are switched on
together. So each of them and every combination is idempotent, order makes no difference, neither
to the passes nor to the steps that look at the settings, and passes that are added later might as
well have been on from the start. -/
theorem runSwitches_eq_applyAll :
    (∀ (wildcard : Bool) (sequence : List Switch) (tokens : List String),
      runSwitches wildcard sequence tokens =
        (FilterSettings.ofSwitches wildcard sequence).applyAll tokens) ∧
    (∀ (wildcard : Bool) (switch : Switch) (tokens : List String),
      (switch.pass wildcard).apply ((switch.pass wildcard).apply tokens) =
        (switch.pass wildcard).apply tokens) ∧
    (∀ (settings : FilterSettings) (tokens : List String),
      settings.applyAll (settings.applyAll tokens) = settings.applyAll tokens) ∧
    (∀ (wildcard : Bool) (first second : List Switch) (tokens : List String),
      (∀ switch, switch ∈ first ↔ switch ∈ second) →
        runSwitches wildcard first tokens = runSwitches wildcard second tokens) ∧
    (∀ (settings : FilterSettings) (order : List Switch) (tokens : List String),
      (∀ switch, switch ∈ order) →
        order.foldl settings.applySwitch tokens = settings.applyAll tokens) ∧
    ∀ (settings extra : FilterSettings) (tokens : List String),
      extra.wildcardPortMatches = settings.wildcardPortMatches →
        extra.applyAll (settings.applyAll tokens) = (settings.join extra).applyAll tokens := by
  refine ⟨fun wildcard sequence tokens => ?_, Switch.apply_pass_idem, fun settings tokens => ?_,
    fun wildcard _ _ tokens h => runSwitches_congr wildcard h tokens,
    fun settings _ tokens h => settings.foldl_applySwitch_of_mem h tokens,
    fun _ _ tokens h => FilterSettings.applyAll_applyAll h tokens⟩
  · rw [FilterSettings.applyAll_eq_runSwitches]
    exact runSwitches_congr wildcard (fun _ => FilterSettings.mem_switches_ofSwitches.symm) tokens
  · rw [FilterSettings.applyAll_applyAll rfl, settings.join_self]

/-- The passes in reverse order, and host lists dropped when the other passes have run. -/
theorem runSwitches_eq_applyAll_reversed :
    let settings : FilterSettings :=
      { FilterSettings.off with removeIpsets := true, allzone := true, wssize := true }
    let extra : FilterSettings := { FilterSettings.off with removeHostlists := true }
    let reversed : List Switch := [.wssize, .allzone, .removeIpsets, .removeHostlists]
    let tokens := ["--filter-tcp=443", "--hostlist=other.txt", "--ipset=a.txt", "--new", "--x"]
    let set := ["--wssize", "1:6", "--wssize-forced-cutoff=0", "--new", "--x"]
    (∀ switch, switch ∈ reversed) ∧ extra.wildcardPortMatches = settings.wildcardPortMatches ∧
      reversed.foldl settings.applySwitch tokens =
        "--filter-tcp=443" :: "--hostlist=allzone.txt" :: set ∧
      extra.applyAll (settings.applyAll tokens) = "--filter-tcp=443" :: set ∧
      runSwitches false reversed tokens = runSwitches false (reversed ++ reversed) tokens := by
  intro settings extra reversed tokens set
  have hAll : ∀ switch, switch ∈ reversed := fun switch => by cases switch <;> decide
  obtain ⟨-, -, -, hSame, hOrder, hJoin⟩ := runSwitches_eq_applyAll
  refine ⟨hAll, rfl, ?_, ?_, ?_⟩
  · rw [hOrder settings reversed tokens hAll]
    decide +kernel
  · rw [hJoin settings extra tokens rfl]
    decide +kernel
  · exact hSame false reversed (reversed ++ reversed) tokens fun switch => by simp [hAll switch]

end PresetCompiler
