import PresetCompiler.Cli.Program
import PresetCompiler.Proofs.Preset.Saving

/-! What the commands do to files. A command reads everything that it needs before it writes
anything, so that one that fails leaves every file as it was. Of the commands only two write:
`format` its target, and `config generate` its output. -/

namespace PresetCompiler.Cli

open Script Attempt

/-! ### Reading -/

theorem onlyReads_firstPresent {ε : Type} (paths : List String) :
    (firstPresent paths : Attempt ε (Option String)).OnlyReads := by
  induction paths with
  | nil => exact onlyReads_pure none
  | cons path rest ih =>
    refine (onlyReads_containsPath path).bind fun answer => ?_
    cases answer with
    | true => exact onlyReads_pure (some path)
    | false => exact ih

theorem onlyReads_settingsLoad (path : String) : (Settings.load path).OnlyReads := by
  refine ((onlyReads_readFile path).mapFault _).bind fun bytes => ?_
  split
  · exact onlyReads_ofExcept _
  · exact onlyReads_throw _

theorem onlyReads_catalogLoad (path : String) : (Catalog.load path).OnlyReads := by
  refine (onlyReads_containsPath path).bind fun answer => ?_
  cases answer with
  | true =>
    exact ((onlyReads_readFile path).mapFault _).bind fun bytes =>
      (onlyReads_ofExcept _).bind fun text => onlyReads_ofExcept _
  | false => exact onlyReads_throw _

theorem onlyReads_presetLoad (path : String) : (Preset.load path).OnlyReads := by
  refine (onlyReads_containsPath path).bind fun answer => ?_
  cases answer with
  | true => exact ((onlyReads_readFile path).mapFault _).bind fun bytes => onlyReads_pure _
  | false => exact onlyReads_throw _

theorem onlyReads_loadSettings (given : Option String) (search : List String) :
    (loadSettings given search).OnlyReads := by
  cases given
  case' some path => refine (onlyReads_pure (some path)).bind ?_
  case' none => refine (onlyReads_firstPresent search).bind ?_
  -- However the file was found, its settings are loaded and checked.
  all_goals
    rintro (_ | path)
    · exact onlyReads_pure _
    · refine ((onlyReads_settingsLoad path).mapFault _).bind fun settings => ?_
      cases settings.validate with
      | ok _ => exact onlyReads_pure settings
      | error fault => exact onlyReads_throw _

theorem onlyReads_presetPath (given : Option String) (settings : GeneralSettings) :
    (presetPath given settings).OnlyReads := by
  cases given with
  | some path =>
    refine (onlyReads_containsPath path).bind fun answer => ?_
    split
    · exact onlyReads_pure path
    · cases settings.presetsDir with
      | none => exact onlyReads_pure path
      | some directory => exact (onlyReads_containsPath _).bind fun answer => onlyReads_pure _
  | none =>
    rw [presetPath.eq_def]
    cases settings.activePreset with
    | none => exact onlyReads_throw _
    | some name => exact onlyReads_pure _

theorem onlyReads_loadPreset (given : Option String) (settings : Settings) :
    (loadPreset given settings).OnlyReads :=
  (onlyReads_presetPath given settings.general).bind fun path =>
    ((onlyReads_presetLoad path).mapFault _).bind fun _ => onlyReads_pure _

/-- Whether a command writes a file. -/
def Command.writes : Command → Bool
  | .format .. | .settings (.generate ..) => true
  | _ => false

section Commands

variable (settings : Settings) (search : List String)

theorem onlyReads_runSettings {command : SettingsCommand}
    (h : (Command.settings command).writes = false) :
    (runSettings settings search command).OnlyReads := by
  cases command with
  | «show» file =>
    cases file with
    | none => exact onlyReads_pure _
    | some file => exact ((onlyReads_settingsLoad file).mapFault _).bind fun _ => onlyReads_pure _
  | generate output force => cases h
  | validate file =>
    refine ((onlyReads_settingsLoad file).mapFault _).bind fun settings => ?_
    cases settings.validate with
    | ok _ => exact onlyReads_pure _
    | error fault => exact onlyReads_throw _
  | paths => exact onlyReads_pure _

/-- A command that writes no file only reads. -/
theorem onlyReads_run {command : Command} (h : command.writes = false) :
    (command.run settings search).OnlyReads := by
  cases command with
  | «show» file shape => exact (onlyReads_loadPreset file settings).bind fun _ => onlyReads_pure _
  | format file output withHeader atomic => cases h
  | compile file filters onePerLine =>
    exact (onlyReads_loadPreset file settings).bind fun _ => onlyReads_pure _
  | strategy file catalog =>
    rw [Command.run, runStrategy]
    cases catalog.or settings.catalog.path with
    | none => exact onlyReads_throw _
    | some path =>
      exact ((onlyReads_catalogLoad path).mapFault _).bind fun _ =>
        (onlyReads_loadPreset file settings).bind fun _ => onlyReads_pure _
  | settings command => exact onlyReads_runSettings settings search h
  | completions shell => exact onlyReads_pure _

end Commands

/-! ### Writing presets -/

section Format

variable (settings : Settings) (file output : Option String) (withHeader atomic : Bool)

/-- Writes a preset in canonical form. -/
def writeTarget (preset : Preset) (target : String) : Attempt Failure Unit :=
  if withHeader then (preset.save target atomic).mapFault (.savingPreset target)
  else (writeFile target (preset.render false)).mapFault (.writingPreset target)

theorem allOrNothing_writeTarget (preset : Preset) (target : String) (tree : FileTree) :
    AllOrNothing target (preset.render withHeader).toUTF8 tree
      ((writeTarget withHeader atomic preset target).runOn tree) := by
  cases withHeader with
  | true =>
    rw [writeTarget, if_pos rfl, runOn_mapFault]
    exact (preset.allOrNothing_save target atomic tree).mapError _
  | false =>
    rw [writeTarget, if_neg (by decide), runOn_mapFault]
    exact (allOrNothing_writeFile tree target _).mapError _

theorem runFormat_eq :
    runFormat settings file output withHeader atomic =
      loadPreset file settings >>= fun loaded =>
        writeTarget withHeader atomic loaded.2 (output.getD loaded.1) >>= fun _ =>
          pure (printLines ["✓ Formatted " ++ output.getD loaded.1 ++ " (" ++
            toString loaded.2.blocks.length ++ " blocks)"]) := by
  rw [runFormat]
  congr 1
  funext loaded
  cases withHeader <;> rfl

theorem failsCleanly_runFormat :
    (runFormat settings file output withHeader atomic).FailsCleanly := by
  rw [runFormat_eq]
  refine (onlyReads_loadPreset file settings).bind_failsCleanly fun loaded => ?_
  refine FailsCleanly.bind_pure (fun tree => ?_) _
  exact (allOrNothing_writeTarget withHeader atomic loaded.2 _ tree).kept

variable {settings file output withHeader atomic} {tree after : FileTree} {text : String}

theorem exists_of_loadPreset {path : String} {preset : Preset}
    (h : (loadPreset file settings).runOn tree = (.ok (path, preset), tree)) :
    (presetPath file settings.general).runOn tree = (.ok path, tree) ∧
      ∃ bytes, tree.read path = .ok bytes ∧ preset = .ofBytes bytes := by
  obtain ⟨_, hPath, hRest⟩ := (onlyReads_presetPath file settings.general).exists_of_runOn_bind h
  obtain ⟨_, _, hLoad, hPair⟩ := exists_of_runOn_bind hRest
  cases hPair
  exact ⟨hPath, Preset.exists_of_load (runOn_mapFault_eq_ok_iff.mp hLoad)⟩

/-- A `format` that succeeds has written its target and changed no other file. -/
theorem exists_of_runFormat
    (h : (runFormat settings file output withHeader atomic).runOn tree = (.ok text, after)) :
    ∃ path bytes, (presetPath file settings.general).runOn tree = (.ok path, tree) ∧
      tree.read path = .ok bytes ∧
      FileTree.Wrote (output.getD path) ((Preset.ofBytes bytes).render withHeader).toUTF8
        tree after := by
  rw [runFormat_eq] at h
  obtain ⟨⟨path, preset⟩, hLoad, hRest⟩ :=
    (onlyReads_loadPreset file settings).exists_of_runOn_bind h
  obtain ⟨_, between, hWrite, hDone⟩ := exists_of_runOn_bind hRest
  cases hDone
  obtain ⟨hPath, bytes, hRead, rfl⟩ := exists_of_loadPreset hLoad
  have hTarget := allOrNothing_writeTarget withHeader atomic (.ofBytes bytes) (output.getD path)
    tree
  rw [hWrite] at hTarget
  exact ⟨path, bytes, hPath, hRead, hTarget.wrote rfl⟩

end Format

/-! ### Writing settings -/

section Generate

variable (settings : Settings) (search : List String) (output : String) (force : Bool)

theorem runSettings_generate_eq :
    runSettings settings search (.generate output force) =
      containsPath output >>= fun present =>
        if present ∧ !force then throw (.occupied output)
        else (writeFile output defaultSettingsText).mapFault (.writingSettings output) >>= fun _ =>
          pure (printLines ["Configuration file generated: " ++ output]) :=
  rfl

theorem failsCleanly_generate :
    (runSettings settings search (.generate output force)).FailsCleanly := by
  rw [runSettings_generate_eq]
  refine (onlyReads_containsPath output).bind_failsCleanly fun present => ?_
  split
  · exact (onlyReads_throw _).failsCleanly
  · refine FailsCleanly.bind_pure (fun tree => ?_) _
    rw [runOn_mapFault]
    exact ((allOrNothing_writeFile tree output defaultSettingsText).mapError _).kept

/-- Default settings were written to an output: nothing else has changed, and something stood there
before only if writing over it was asked for. -/
structure Generated (output : String) (force : Bool) (before after : FileTree) : Prop where
  read : after.read output = .ok defaultSettingsText.toUTF8
  others : ∃ target, before.locate output = .ok target ∧
    (force = true ∨ before.node? target = none) ∧
    ∀ location, location ≠ target → after.node? location = before.node? location

variable {settings search output force} {tree after : FileTree} {text : String}

theorem generated_of_run
    (h : ((Command.settings (.generate output force)).run settings search).runOn tree =
      (.ok text, after)) : Generated output force tree after := by
  rw [Command.run, runSettings_generate_eq] at h
  obtain ⟨present, hPresent, hRest⟩ := (onlyReads_containsPath output).exists_of_runOn_bind h
  rw [runOn_containsPath] at hPresent
  cases hPresent
  split at hRest
  · cases hRest
  rename_i hFree
  obtain ⟨_, between, hWrite, hDone⟩ := exists_of_runOn_bind hRest
  cases hDone
  rw [runOn_mapFault_eq_ok_iff, runOn_writeFile_eq_ok_iff] at hWrite
  obtain ⟨hSlash, target, hRoot, hLocate, -, hAfter⟩ := FileTree.write_eq_ok_iff.mp hWrite
  refine ⟨(FileTree.wrote_of_write hWrite).read, target, hLocate, ?_, fun location hNe => ?_⟩
  · cases force with
    | true => exact .inl rfl
    | false => exact .inr (FileTree.node?_eq_none_of_contains (by simpa using hFree) hSlash hLocate)
  · rw [hAfter, FileTree.node?_putFile hRoot, if_neg hNe]

end Generate

/-! ### Whole runs -/

/-- The attempt that a command line asks for. -/
def Invocation.attempt (userSettings : Option String) (invocation : Invocation) :
    Attempt Failure String := do
  let settings ← loadSettings invocation.settingsFile (settingsFileName :: userSettings.toList)
  invocation.command.run settings (("./" ++ settingsFileName) :: userSettings.toList)

/-- How the program ends when a command has ended. -/
def Outcome.ofResult : Except Failure String → Outcome
  | .ok text => .printed text
  | .error failure => .failed failure

theorem Outcome.ofResult_eq_printed_iff {result : Except Failure String} {text : String} :
    ofResult result = .printed text ↔ result = .ok text := by
  cases result <;> simp [ofResult]

theorem Outcome.ofResult_eq_failed_iff {result : Except Failure String} {failure : Failure} :
    ofResult result = .failed failure ↔ result = .error failure := by
  cases result <;> simp [ofResult]

theorem Outcome.ofResult_ne_usage (result : Except Failure String) (fault : UsageFault) :
    ofResult result ≠ .usage fault := by
  cases result <;> simp [ofResult]

theorem run_program_of_error {args : List String} {fault : UsageFault}
    (h : Invocation.read args = .error fault) (userSettings : Option String) (tree : FileTree) :
    (program userSettings args).run tree = (.usage fault, tree) := by
  rw [program, h]
  rfl

theorem run_program {args : List String} {invocation : Invocation}
    (h : Invocation.read args = .ok invocation) (userSettings : Option String) (tree : FileTree) :
    (program userSettings args).run tree =
      (.ofResult ((invocation.attempt userSettings).runOn tree).1,
        ((invocation.attempt userSettings).runOn tree).2) := by
  rw [program, h]
  exact run_bind tree (invocation.attempt userSettings).run _

theorem failsCleanly_run (settings : Settings) (search : List String) (command : Command) :
    (command.run settings search).FailsCleanly := by
  cases hWrites : command.writes with
  | false => exact (onlyReads_run settings search hWrites).failsCleanly
  | true =>
    cases command with
    | format file output withHeader atomic =>
      exact failsCleanly_runFormat settings file output withHeader atomic
    | settings command =>
      cases command with
      | generate output force => exact failsCleanly_generate settings search output force
      | _ => cases hWrites
    | _ => cases hWrites

/-- What putting a preset into canonical form did to files: settings and a preset were read, and
the target holds the document of that preset. -/
def Formatted (settingsFile userSettings file output : Option String) (withHeader : Bool)
    (before after : FileTree) : Prop :=
  ∃ settings path bytes,
    (loadSettings settingsFile (settingsFileName :: userSettings.toList)).runOn before =
      (.ok settings, before) ∧
    (presetPath file settings.general).runOn before = (.ok path, before) ∧
    before.read path = .ok bytes ∧
    FileTree.Wrote (output.getD path) ((Preset.ofBytes bytes).render withHeader).toUTF8 before after

section Run

variable {userSettings : Option String} {invocation : Invocation} {tree after : FileTree}
  {text : String}

theorem onlyReads_attempt (h : invocation.command.writes = false) :
    (invocation.attempt userSettings).OnlyReads :=
  (onlyReads_loadSettings _ _).bind fun settings => onlyReads_run settings _ h

theorem failsCleanly_attempt (userSettings : Option String) (invocation : Invocation) :
    (invocation.attempt userSettings).FailsCleanly :=
  (onlyReads_loadSettings _ _).bind_failsCleanly fun settings =>
    failsCleanly_run settings _ invocation.command

theorem exists_of_attempt
    (h : (invocation.attempt userSettings).runOn tree = (.ok text, after)) :
    ∃ settings,
      (loadSettings invocation.settingsFile (settingsFileName :: userSettings.toList)).runOn tree =
        (.ok settings, tree) ∧
      (invocation.command.run settings (("./" ++ settingsFileName) :: userSettings.toList)).runOn
        tree = (.ok text, after) :=
  (onlyReads_loadSettings _ _).exists_of_runOn_bind h

theorem formatted_of_attempt {file output : Option String} {withHeader atomic : Bool}
    (h : (invocation.attempt userSettings).runOn tree = (.ok text, after))
    (hFormat : invocation.command = .format file output withHeader atomic) :
    Formatted invocation.settingsFile userSettings file output withHeader tree after := by
  obtain ⟨settings, hSettings, hCommand⟩ := exists_of_attempt h
  rw [hFormat] at hCommand
  obtain ⟨path, bytes, hTarget⟩ := exists_of_runFormat hCommand
  exact ⟨settings, path, bytes, hSettings, hTarget⟩

theorem generated_of_attempt {output : String} {force : Bool}
    (h : (invocation.attempt userSettings).runOn tree = (.ok text, after))
    (hGenerate : invocation.command = .settings (.generate output force)) :
    Generated output force tree after := by
  obtain ⟨settings, -, hCommand⟩ := exists_of_attempt h
  rw [hGenerate] at hCommand
  exact generated_of_run hCommand

end Run

end PresetCompiler.Cli
