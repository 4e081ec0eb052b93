import PresetCompiler.Proofs.Filter.WindowSizes

/-! Passes block by block. A token that begins a block cuts a token list in two, and the passes
treat the two parts by themselves. So the tokens that a preset compiles to are put together from
those of its blocks, and a change of one block stays within it. -/

namespace PresetCompiler

/-! ### Runs that split at boundaries -/

/-- A change of token lists that keeps the tokens that begin blocks, adds no separator, and treats
what stands before a token that begins a block and what follows it by themselves. -/
structure SplitsBlocks (run : List String → List String) : Prop where
  boundary {token : String} (h : isBoundary token = true) (back : List String) :
    ∃ rest, run (token :: back) = token :: rest
  append {token : String} (h : isBoundary token = true) (front back : List String) :
    run (front ++ token :: back) = run front ++ run (token :: back)
  separator (back : List String) : run (separator :: back) = PresetCompiler.separator :: run back
  count (tokens : List String) :
    (run tokens).count PresetCompiler.separator = tokens.count PresetCompiler.separator

theorem isBoundary_separator : isBoundary separator = true := by decide

namespace SplitsBlocks

variable {run next : List String → List String}

theorem id : SplitsBlocks fun tokens => tokens :=
  ⟨fun _ back => ⟨back, rfl⟩, fun _ _ _ => rfl, fun _ => rfl, fun _ => rfl⟩

theorem comp (hRun : SplitsBlocks run) (hNext : SplitsBlocks next) :
    SplitsBlocks fun tokens => next (run tokens) where
  boundary {token} h back := by
    obtain ⟨rest, hRest⟩ := hRun.boundary h back
    rw [hRest]
    exact hNext.boundary h rest
  append {token} h front back := by
    obtain ⟨rest, hRest⟩ := hRun.boundary h back
    rw [hRun.append h, hRest]
    exact hNext.append h (run front) rest
  separator back := by rw [hRun.separator, hNext.separator]
  count tokens := by rw [hNext.count, hRun.count]

theorem append_separator (hRun : SplitsBlocks run) (front back : List String) :
    run (front ++ [PresetCompiler.separator] ++ back) =
      run front ++ [PresetCompiler.separator] ++ run back := by
  rw [List.append_assoc, List.singleton_append, hRun.append isBoundary_separator, hRun.separator,
    List.append_assoc, List.singleton_append]

theorem intercalate (hRun : SplitsBlocks run) {parts : List (List String)} (hParts : parts ≠ []) :
    run (List.intercalate [PresetCompiler.separator] parts) =
      List.intercalate [PresetCompiler.separator] (parts.map run) := by
  induction parts with
  | nil => contradiction
  | cons part rest ih =>
    by_cases hRest : rest = []
    · rw [hRest, List.map_singleton, List.intercalate_singleton, List.intercalate_singleton]
    · have hMap : rest.map run ≠ [] := by simpa using hRest
      rw [List.intercalate_cons_of_ne_nil hRest, hRun.append_separator, ih hRest, List.map_cons,
        List.intercalate_cons_of_ne_nil hMap]

end SplitsBlocks

/-! ### The passes -/

theorem ChangesTargets.count_filterMap {change : String → Option String} (h : ChangesTargets change)
    (tokens : List String) :
    (tokens.filterMap change).count separator = tokens.count separator := by
  induction tokens with
  | nil => rfl
  | cons first rest ih =>
    cases hTarget : isTarget first with
    | false => rw [List.filterMap_cons_some (h.kept hTarget), List.count_cons, List.count_cons, ih]
    | true =>
      rw [List.count_cons_of_ne (ne_separator_of_isTarget hTarget)]
      cases hResult : change first with
      | none => rw [List.filterMap_cons_none hResult, ih]
      | some result =>
        have hNe : result ≠ separator := ne_separator_of_isTarget (h.target hTarget hResult)
        rw [List.filterMap_cons_some hResult, List.count_cons_of_ne hNe, ih]

theorem ChangesTargets.splitsBlocks {change : String → Option String} (h : ChangesTargets change) :
    SplitsBlocks (List.filterMap change) where
  boundary hToken back := ⟨_, List.filterMap_cons_some (h.kept (isTarget_of_isBoundary hToken))⟩
  append _ _ _ := List.filterMap_append
  separator back := List.filterMap_cons_some (h.kept (by decide))
  count := h.count_filterMap

theorem splitsBlocks_setWindowSizes (wildcard : Bool) :
    SplitsBlocks (setWindowSizes wildcard .outside) where
  boundary h back := ⟨_, setWindowSizes_boundary h .outside back⟩
  append h front back := setWindowSizes_append h .outside front back
  separator back := setWindowSizes_boundary isBoundary_separator .outside back
  count tokens := count_setWindowSizes .outside tokens

theorem Switch.splitsBlocks (wildcard : Bool) (switch : Switch) :
    SplitsBlocks (switch.pass wildcard).apply := by
  by_cases h : switch = wssize
  · subst h
    rw [apply_pass_wssize]
    exact splitsBlocks_setWindowSizes wildcard
  · rw [show (switch.pass wildcard).apply = List.filterMap switch.change from
      funext (apply_pass_of_ne h wildcard)]
    exact switch.changesTargets_change.splitsBlocks

theorem splitsBlocks_runSwitches (wildcard : Bool) (sequence : List Switch) :
    SplitsBlocks (runSwitches wildcard sequence) := by
  induction sequence with
  | nil => exact SplitsBlocks.id
  | cons switch rest ih => exact (switch.splitsBlocks wildcard).comp ih

theorem FilterSettings.splitsBlocks (settings : FilterSettings) : SplitsBlocks settings.applyAll := by
  rw [show settings.applyAll = runSwitches settings.wildcardPortMatches settings.switches from
    funext settings.applyAll_eq_runSwitches]
  exact splitsBlocks_runSwitches _ _

/-- All passes together neither add nor remove separators. -/
theorem FilterSettings.count_applyAll (settings : FilterSettings) (tokens : List String) :
    (settings.applyAll tokens).count separator = tokens.count separator :=
  settings.splitsBlocks.count tokens

/-! ### Presets -/

namespace Preset

/-- The tokens of a preset between the separators of its blocks: those of the base arguments and
the first block, then those of each further block. -/
def parts (preset : Preset) : List (List String) :=
  match preset.blocks with
  | [] => [tokenize preset.baseArgs]
  | first :: rest =>
    (tokenize preset.baseArgs ++ tokenize first.args) :: rest.map fun block => tokenize block.args

/-- The same parts, each after every pass that is switched on. -/
def compiledParts (preset : Preset) (settings : FilterSettings) : List (List String) :=
  preset.parts.map settings.applyAll

/-- The preset with other arguments in the block at one place. -/
def withArgs (preset : Preset) (place : Nat) (args : String) : Preset :=
  { preset with blocks := preset.blocks.modify place fun block => { block with args } }

theorem parts_ne_nil (preset : Preset) : preset.parts ≠ [] := by
  rw [parts]
  split <;> simp

theorem tokens_eq_intercalate (preset : Preset) :
    preset.tokens = List.intercalate [separator] preset.parts := by
  rw [tokens, parts]
  split
  · rename_i hBlocks
    rw [hBlocks, List.map_nil, List.intercalate_nil, List.append_nil, List.intercalate_singleton]
  · rename_i first rest hBlocks
    rw [hBlocks, List.map_cons]
    by_cases hRest : rest.map (fun block => tokenize block.args) = []
    · rw [hRest, List.intercalate_singleton, List.intercalate_singleton]
    · rw [List.intercalate_cons_of_ne_nil hRest, List.intercalate_cons_of_ne_nil hRest]
      simp only [List.append_assoc]

theorem compile_eq_intercalate (preset : Preset) (settings : FilterSettings) :
    preset.compile settings = List.intercalate [separator] (preset.compiledParts settings) := by
  rw [compile, tokens_eq_intercalate, settings.splitsBlocks.intercalate preset.parts_ne_nil,
    compiledParts]

theorem map_tokenize_modify (blocks : List Block) (place : Nat) (args : String) :
    (blocks.modify place fun block => { block with args }).map (fun block => tokenize block.args) =
      (blocks.map fun block => tokenize block.args).set place (tokenize args) := by
  induction blocks generalizing place with
  | nil => rw [List.modify_nil, List.map_nil, List.set_nil]
  | cons first rest ih =>
    cases place with
    | zero => rfl
    | succ place =>
      rw [List.modify_succ_cons, List.map_cons, ih, List.map_cons, List.set_cons_succ]

theorem parts_withArgs {preset : Preset} {place : Nat} (h : place < preset.blocks.length)
    (args : String) :
    (preset.withArgs place args).parts = preset.parts.set place
      (if place = 0 then tokenize preset.baseArgs ++ tokenize args else tokenize args) := by
  obtain ⟨name, activePreset, baseArgs, blocks, rawHeader⟩ := preset
  cases blocks with
  | nil => contradiction
  | cons first rest =>
    cases place with
    | zero => rfl
    | succ place => exact congrArg (_ :: ·) (map_tokenize_modify rest place args)

end Preset

/-- The passes work block by block, whatever is switched on: they may run on what stands before a
separator or a filter and on what follows by themselves. So a preset compiles to the passed tokens
of its base arguments and first block, and, each behind a separator, those of its further blocks,
and other arguments in one block change the tokens of no other. -/
theorem applyAll_blockwise :
    (∀ (settings : FilterSettings) (front back : List String),
      settings.applyAll (front ++ [separator] ++ back) =
        settings.applyAll front ++ [separator] ++ settings.applyAll back) ∧
    (∀ (settings : FilterSettings) (front : List String) (token : String) (back : List String),
      hasLead ["--filter-"] token = true →
        settings.applyAll (front ++ token :: back) =
          settings.applyAll front ++ settings.applyAll (token :: back)) ∧
    (∀ (settings : FilterSettings) (preset : Preset),
      preset.compile settings = List.intercalate [separator] (preset.compiledParts settings)) ∧
    ∀ (settings : FilterSettings) (preset : Preset) (place : Nat) (args : String),
      place < preset.blocks.length →
        (preset.withArgs place args).compiledParts settings =
          (preset.compiledParts settings).set place (settings.applyAll
            (if place = 0 then tokenize preset.baseArgs ++ tokenize args else tokenize args)) := by
  refine ⟨fun settings => settings.splitsBlocks.append_separator, ?_, fun settings preset =>
    preset.compile_eq_intercalate settings, ?_⟩
  · intro settings front token back hFilter
    have hBoundary : isBoundary token = true := by simp [isBoundary, hFilter]
    exact settings.splitsBlocks.append hBoundary front back
  · intro settings preset place args h
    rw [Preset.compiledParts, Preset.parts_withArgs h, List.map_set, Preset.compiledParts]

/-- The second of two blocks gets other arguments. The window size is set in each of them by
itself. -/
theorem applyAll_blockwise_web :
    let settings : FilterSettings := { FilterSettings.off with allzone := true, wssize := true }
    let preset : Preset := { Preset.new "Web" with
      baseArgs := "--wf-tcp=443"
      blocks := [.ofArgs "--filter-tcp=443\n--hostlist=other.txt",
        .ofArgs "--filter-udp=443\n--hostlist=web.txt"] }
    let first := ["--wf-tcp=443", "--filter-tcp=443", "--hostlist=allzone.txt", "--wssize", "1:6",
      "--wssize-forced-cutoff=0"]
    hasLead ["--filter-"] "--filter-tcp=443" = true ∧ 1 < preset.blocks.length ∧
      settings.applyAll (["--wf-tcp=443"] ++ ["--filter-tcp=443", "--hostlist=other.txt"]) =
        first ∧
      (preset.withArgs 1 "--filter-tcp=80-443").compiledParts settings =
        [first, ["--filter-tcp=80-443", "--wssize", "1:6", "--wssize-forced-cutoff=0"]] := by
  intro settings preset first
  have hFilter : hasLead ["--filter-"] "--filter-tcp=443" = true := by decide
  have hPlace : 1 < preset.blocks.length := Nat.lt_succ_self 1
  obtain ⟨-, hSplit, -, hChange⟩ := applyAll_blockwise
  refine ⟨hFilter, hPlace, ?_, ?_⟩
  · rw [hSplit settings ["--wf-tcp=443"] "--filter-tcp=443" ["--hostlist=other.txt"] hFilter]
    decide +kernel
  · rw [hChange settings preset 1 "--filter-tcp=80-443" hPlace]
    decide +kernel

end PresetCompiler
