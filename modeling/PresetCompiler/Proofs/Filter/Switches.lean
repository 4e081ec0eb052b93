import PresetCompiler.Proofs.Filter.Passes

/-! The passes that settings switch on, as one family. All passes together are those that are on,
one after the other. Three of them change the tokens one by one and spare all that choose no
targets. -/

namespace PresetCompiler

/-! ### Changes of single tokens -/

/-- A change of single tokens, some of which it drops. It leaves every token alone that does not
choose targets, and it makes no such token out of one that does. -/
structure ChangesTargets (change : String → Option String) : Prop where
  kept {token : String} (h : isTarget token = false) : change token = some token
  target {token result : String} (h : isTarget token = true) (hResult : change token = some result) :
    isTarget result = true

/-- The change that drops the tokens with one of several leads. -/
def unlessLead (leads : List String) : String → Option String :=
  Option.guard fun token => !hasLead leads token

theorem changesTargets_unlessLead {leads : List String} (h : leads ⊆ hostlistLeads ++ ipsetLeads) :
    ChangesTargets (unlessLead leads) where
  kept {token} hKept := by
    have hNot : hasLead leads token = false := by
      rw [← Bool.not_eq_true]
      intro hLead
      have hTarget : isTarget token = true := hasLead_mono h hLead
      rw [hKept] at hTarget
      contradiction
    simp [unlessLead, Option.guard, hNot]
  target {token result} hTarget hResult := by
    obtain ⟨rfl, -⟩ := Option.guard_eq_some_iff.mp hResult
    exact hTarget

/-! ### Switches -/

/-- The passes that settings switch on. -/
inductive Switch
  | removeHostlists
  | removeIpsets
  | allzone
  | wssize
  deriving DecidableEq

namespace Switch

def pass (wildcard : Bool) : Switch → TokenPass
  | removeHostlists => .removeHostlists
  | removeIpsets => .removeIpsets
  | allzone => .allzone
  | wssize => .wssize wildcard

/-- What the pass behind a switch makes of a token by itself. Window sizes are set between tokens
and change none. -/
def change : Switch → String → Option String
  | removeHostlists => unlessLead hostlistLeads
  | removeIpsets => unlessLead ipsetLeads
  | allzone => fun token => some (widenToken token)
  | wssize => some

def isOn (settings : FilterSettings) : Switch → Bool
  | removeHostlists => settings.removeHostlists
  | removeIpsets => settings.removeIpsets
  | allzone => settings.allzone
  | wssize => settings.wssize

theorem apply_pass_of_ne {switch : Switch} (h : switch ≠ wssize) (wildcard : Bool)
    (tokens : List String) :
    (switch.pass wildcard).apply tokens = tokens.filterMap switch.change := by
  cases switch with
  | removeHostlists => exact (congrFun List.filterMap_eq_filter tokens).symm
  | removeIpsets => exact (congrFun List.filterMap_eq_filter tokens).symm
  | allzone => exact (congrFun List.filterMap_eq_map tokens).symm
  | wssize => contradiction

theorem changesTargets_change (switch : Switch) : ChangesTargets switch.change := by
  cases switch with
  | removeHostlists => exact changesTargets_unlessLead (by decide)
  | removeIpsets => exact changesTargets_unlessLead (by decide)
  | allzone =>
    refine ⟨fun {token} h => ?_, fun {token result} h hResult => ?_⟩
    · rcases widenToken_cases token with hSame | ⟨hLead, -⟩
      · exact congrArg some hSame
      · have hTarget : isTarget token = true := hasLead_mono (by decide) hLead
        rw [h] at hTarget
        contradiction
    · obtain rfl := Option.some.inj hResult
      rw [isTarget_widenToken, h]
  | wssize => exact ⟨fun _ => rfl, fun h hResult => Option.some.inj hResult ▸ h⟩

end Switch

/-! ### Sequences of passes -/

/-- The tokens after the passes behind a sequence of switches, one after the other. -/
def runSwitches (wildcard : Bool) (sequence : List Switch) (tokens : List String) : List String :=
  sequence.foldl (fun tokens switch => (switch.pass wildcard).apply tokens) tokens

namespace FilterSettings

/-- The switches that are on, in the order in which their passes run. -/
def switches (settings : FilterSettings) : List Switch :=
  [Switch.removeHostlists, .removeIpsets, .allzone, .wssize].filter fun switch =>
    switch.isOn settings

theorem mem_switches {settings : FilterSettings} {switch : Switch} :
    switch ∈ settings.switches ↔ switch.isOn settings = true := by
  rw [switches, List.mem_filter]
  exact and_iff_right (by cases switch <;> decide)

theorem applyAll_eq_runSwitches (settings : FilterSettings) (tokens : List String) :
    settings.applyAll tokens =
      runSwitches settings.wildcardPortMatches settings.switches tokens := by
  obtain ⟨hostlists, ipsets, zones, sizes, wildcard⟩ := settings
  cases hostlists <;> cases ipsets <;> cases zones <;> cases sizes <;> rfl

end FilterSettings

end PresetCompiler
