import PresetCompiler.Preset.Form
import PresetCompiler.Proofs.Dictionary
import PresetCompiler.Settings.Form

/-! Models and their stored forms. Every model is read back from its form, which is complete, and
what is read from a record depends only on the values at the names of the fields, where a missing
field with a default counts as if it held the default (`Form.ReadsFields`). -/

namespace PresetCompiler

/-- The value of a field, or what stands for the value of a missing one. -/
def valueOr (defaults fields : List (String × α)) (name : String) : Option α :=
  (fields.lookup name).or (defaults.lookup name)

/-! ### Complete forms -/

theorem entriesAreComplete_iff {entries : List (String × Form)} :
    entriesAreComplete entries = true ↔ ∀ entry ∈ entries, entry.2.isComplete = true := by
  induction entries with
  | nil => simp [entriesAreComplete]
  | cons entry entries ih => rw [entriesAreComplete, Bool.and_eq_true, ih, List.forall_mem_cons]

theorem itemsAreComplete_iff {items : List Form} :
    itemsAreComplete items = true ↔ ∀ item ∈ items, item.isComplete = true := by
  induction items with
  | nil => simp [itemsAreComplete]
  | cons item items ih => rw [itemsAreComplete, Bool.and_eq_true, ih, List.forall_mem_cons]

namespace Form

theorem isComplete_of_mem_entryOf {name : String} {value : Option String} {entry : String × Form}
    (h : entry ∈ entryOf name value) : entry.2.isComplete = true := by
  cases value with
  | none => simp [entryOf] at h
  | some value =>
    obtain rfl := List.mem_singleton.mp h
    rfl

/-! ### Fields -/

section Fields

variable {α : Type} {read? : Form → Option α} {names : List String}
  {defaults fields fields' : List (String × Form)} {name : String}

theorem orAbsent?_of_isComplete {form : Form} (h : form.isComplete = true) :
    orAbsent? read? form = (read? form).map some := by
  cases form with
  | absent => contradiction
  | _ => rfl

/-- Records with the same values at the named fields, as far as those have no default. -/
def SameFields (names : List String) (defaults fields fields' : List (String × Form)) : Prop :=
  ∀ name ∈ names, valueOr defaults fields name = valueOr defaults fields' name

theorem SameFields.required? (h : SameFields names defaults fields fields')
    (read? : Form → Option α) (name : String)
    (hName : name ∈ names ∧ defaults.lookup name = none) :
    required? read? name fields = Form.required? read? name fields' := by
  have hSame := h name hName.1
  rw [valueOr, valueOr, hName.2, Option.or_none, Option.or_none] at hSame
  rw [Form.required?, Form.required?, hSame]

theorem optional?_eq {default : α} {form : Form} (hDefault : defaults.lookup name = some form)
    (hRead : read? form = some default) :
    optional? read? default name fields = (valueOr defaults fields name).bind read? := by
  rw [optional?, valueOr, hDefault]
  cases fields.lookup name with
  | none => exact hRead.symm
  | some form => rfl

theorem SameFields.optional? (h : SameFields names defaults fields fields')
    (read? : Form → Option α) (default : α) (name : String) {form : Form} (hName : name ∈ names)
    (hDefault : defaults.lookup name = some form ∧ read? form = some default) :
    optional? read? default name fields = Form.optional? read? default name fields' := by
  rw [optional?_eq hDefault.1 hDefault.2, optional?_eq hDefault.1 hDefault.2, h name hName]

/-- A reader that looks at nothing in a record but the values of the named fields, and that reads
the items of a list as the fields in their order. -/
structure ReadsFields (names : List String) (defaults : List (String × Form))
    (ofForm? : Bool → Form → Option α) : Prop where
  record : ∀ strict fields fields', SameFields names defaults fields fields' →
    ofForm? strict (.record fields) = ofForm? strict (.record fields')
  shape : ∀ strict form model, ofForm? strict form = some model →
    (∃ fields, form = .record fields) ∨ ∃ items, form = .list items
  list : ∀ strict items, ofForm? strict (.list items) =
    if strict ∧ names.length < items.length then none
    else ofForm? strict (.record (names.zip items))

/-- A reader that takes the fields first and goes on from their values. -/
theorem ReadsFields.of_bind {ofForm? : Bool → Form → Option α}
    {next : Bool → List (String × Form) → Option α}
    (h : ∀ strict form, ofForm? strict form = (form.fields? strict names).bind (next strict))
    (hNext : ∀ strict fields fields', SameFields names defaults fields fields' →
      next strict fields = next strict fields') :
    ReadsFields names defaults ofForm? where
  record strict fields fields' hSame := by
    rw [h, h]
    exact hNext strict fields fields' hSame
  shape strict form model hRead := by
    obtain ⟨fields, hFields, -⟩ := Option.bind_eq_some_iff.mp ((h strict form).symm.trans hRead)
    cases form with
    | record fields => exact .inl ⟨fields, rfl⟩
    | list items => exact .inr ⟨items, rfl⟩
    | _ => contradiction
  list strict items := by
    rw [h, h]
    by_cases hLong : strict ∧ names.length < items.length <;> simp [fields?, hLong]

end Fields

end Form

/-! ### Blocks -/

theorem Protocol.ofForm?_form (protocol : Protocol) : ofForm? protocol.form = some protocol := by
  cases protocol <;> rfl

theorem Targeting.ofForm?_form (targeting : Targeting) :
    ofForm? targeting.form = some targeting := by
  cases targeting <;> rfl

namespace Dictionary

theorem isComplete_form (d : Dictionary String) : d.form.isComplete = true := by
  refine entriesAreComplete_iff.mpr fun entry hEntry => ?_
  obtain ⟨_, -, rfl⟩ := List.mem_map.mp hEntry
  rfl

theorem ofForm?_form (d : Dictionary String) : ofForm? d.form = some d := by
  rw [form, ofForm?, mapM_map_eq_some]
  · exact congrArg some d.ofList_entries
  · exact fun _ _ => rfl

end Dictionary

namespace Block

/-- What stands for missing fields of a block. -/
def fieldDefaults : List (String × Form) :=
  [("syndata_dict", .absent)]

theorem isComplete_form (block : Block) : block.form.isComplete = true := by
  obtain ⟨category, protocol, targeting, listFile, ports, args, strategyArgs, syndata⟩ := block
  cases syndata with
  | none => rfl
  | some d =>
    simp [form, Form.isComplete, entriesAreComplete, Protocol.form, Targeting.form,
      d.isComplete_form]

theorem ofForm?_form (strict : Bool) (block : Block) : ofForm? strict block.form = some block := by
  obtain ⟨category, protocol, targeting, listFile, ports, args, strategyArgs, syndata⟩ := block
  cases syndata with
  | none => cases protocol <;> cases targeting <;> rfl
  | some d =>
    have hSyndata : Form.orAbsent? Dictionary.ofForm? d.form = some (some d) := by
      rw [Form.orAbsent?_of_isComplete d.isComplete_form, d.ofForm?_form, Option.map_some]
    simp [ofForm?, form, Form.fields?, Form.required?, Form.optional?, Form.text?,
      Protocol.ofForm?_form, Targeting.ofForm?_form, List.lookup_cons, hSyndata]

theorem readsFields : Form.ReadsFields fieldNames fieldDefaults ofForm? := by
  refine .of_bind (fun _ _ => rfl) fun strict fields fields' h => ?_
  simp only [h.required? Form.text? "category" (by decide),
    h.required? Protocol.ofForm? "protocol" (by decide),
    h.required? Targeting.ofForm? "filter_mode" (by decide),
    h.required? Form.text? "filter_file" (by decide), h.required? Form.text? "port" (by decide),
    h.required? Form.text? "args" (by decide), h.required? Form.text? "strategy_args" (by decide),
    h.optional? (Form.orAbsent? Dictionary.ofForm?) none "syndata_dict" (by decide) ⟨rfl, rfl⟩]

end Block

/-! ### Presets -/

namespace Preset

/-- What stands for missing fields of a preset. -/
def fieldDefaults : List (String × Form) :=
  [("active_preset", .absent), ("raw_header", .text "")]

theorem isComplete_form (preset : Preset) : preset.form.isComplete = true := by
  have hBlocks : itemsAreComplete (preset.blocks.map Block.form) = true := by
    refine itemsAreComplete_iff.mpr fun item hItem => ?_
    obtain ⟨block, -, rfl⟩ := List.mem_map.mp hItem
    exact block.isComplete_form
  refine entriesAreComplete_iff.mpr fun entry hEntry => ?_
  simp only [List.mem_append, List.mem_cons, List.not_mem_nil, or_false] at hEntry
  rcases hEntry with ((rfl | hEntry) | rfl | rfl) | hEntry
  · rfl
  · exact Form.isComplete_of_mem_entryOf hEntry
  · rfl
  · exact hBlocks
  · split at hEntry
    · simp at hEntry
    · obtain rfl := List.mem_singleton.mp hEntry
      rfl

theorem ofForm?_form (strict : Bool) (preset : Preset) :
    ofForm? strict preset.form = some preset := by
  have hBlocks : blocksOfForm? strict (.list (preset.blocks.map Block.form)) = some preset.blocks :=
    mapM_map_eq_some fun block _ => block.ofForm?_form strict
  obtain ⟨name, activePreset, baseArgs, blocks, rawHeader⟩ := preset
  by_cases hHeader : rawHeader = "" <;> cases activePreset <;>
    simp_all [ofForm?, form, Form.fields?, Form.required?, Form.optional?, Form.orAbsent?,
      Form.text?, Form.entryOf, List.lookup_cons]

theorem readsFields : Form.ReadsFields fieldNames fieldDefaults ofForm? := by
  refine .of_bind (fun _ _ => rfl) fun strict fields fields' h => ?_
  simp only [h.required? Form.text? "name" (by decide),
    h.required? Form.text? "base_args" (by decide),
    h.required? (blocksOfForm? strict) "categories" (by decide),
    h.optional? (Form.orAbsent? Form.text?) none "active_preset" (by decide) ⟨rfl, rfl⟩,
    h.optional? Form.text? "" "raw_header" (by decide) ⟨rfl, rfl⟩]

end Preset

/-! ### Settings -/

namespace FilterSettings

/-- What stands for missing switches. -/
def fieldDefaults : List (String × Form) :=
  fieldNames.map fun name => (name, .flag false)

theorem ofForm?_form (strict : Bool) (settings : FilterSettings) :
    ofForm? strict settings.form = some settings := rfl

theorem readsFields : Form.ReadsFields fieldNames fieldDefaults ofForm? := by
  refine .of_bind (fun _ _ => rfl) fun strict fields fields' h => ?_
  have hSwitch (name : String)
      (hName : name ∈ fieldNames ∧ fieldDefaults.lookup name = some (.flag false)) :
      Form.optional? Form.flag? false name fields = Form.optional? Form.flag? false name fields' :=
    h.optional? Form.flag? false name hName.1 ⟨hName.2, rfl⟩
  simp only [hSwitch "remove_hostlists" ⟨by decide, rfl⟩, hSwitch "remove_ipsets" ⟨by decide, rfl⟩,
    hSwitch "allzone" ⟨by decide, rfl⟩, hSwitch "wssize" ⟨by decide, rfl⟩,
    hSwitch "wildcard_port_matches" ⟨by decide, rfl⟩]

end FilterSettings

namespace GeneralSettings

/-- What stands for missing general settings. -/
def fieldDefaults : List (String × Form) :=
  fieldNames.map fun name => (name, .absent)

theorem isComplete_form (settings : GeneralSettings) : settings.form.isComplete = true := by
  refine entriesAreComplete_iff.mpr fun entry hEntry => ?_
  rcases List.mem_append.mp hEntry with hEntry | hEntry
  · exact Form.isComplete_of_mem_entryOf hEntry
  · exact Form.isComplete_of_mem_entryOf hEntry

theorem ofForm?_form (strict : Bool) (settings : GeneralSettings) :
    ofForm? strict settings.form = some settings := by
  obtain ⟨presetsDir, activePreset⟩ := settings
  cases presetsDir <;> cases activePreset <;> rfl

theorem readsFields : Form.ReadsFields fieldNames fieldDefaults ofForm? := by
  refine .of_bind (fun _ _ => rfl) fun strict fields fields' h => ?_
  simp only [h.optional? (Form.orAbsent? Form.text?) none "presets_dir" (by decide) ⟨rfl, rfl⟩,
    h.optional? (Form.orAbsent? Form.text?) none "active_preset" (by decide) ⟨rfl, rfl⟩]

end GeneralSettings

namespace CatalogSettings

/-- What stands for missing catalog settings. -/
def fieldDefaults : List (String × Form) :=
  fieldNames.map fun name => (name, .absent)

theorem isComplete_form (settings : CatalogSettings) : settings.form.isComplete = true :=
  entriesAreComplete_iff.mpr fun _ hEntry => Form.isComplete_of_mem_entryOf hEntry

theorem ofForm?_form (strict : Bool) (settings : CatalogSettings) :
    ofForm? strict settings.form = some settings := by
  obtain ⟨path⟩ := settings
  cases path <;> rfl

theorem readsFields : Form.ReadsFields fieldNames fieldDefaults ofForm? := by
  refine .of_bind (fun _ _ => rfl) fun strict fields fields' h => ?_
  simp only [h.optional? (Form.orAbsent? Form.text?) none "path" (by decide) ⟨rfl, rfl⟩]

end CatalogSettings

namespace LoggingSettings

/-- What stands for missing logging settings. -/
def fieldDefaults : List (String × Form) :=
  [("level", .text "info"), ("json_format", .flag false)]

theorem ofForm?_form (strict : Bool) (settings : LoggingSettings) :
    ofForm? strict settings.form = some settings := rfl

theorem readsFields : Form.ReadsFields fieldNames fieldDefaults ofForm? := by
  refine .of_bind (fun _ _ => rfl) fun strict fields fields' h => ?_
  simp only [h.optional? Form.text? "info" "level" (by decide) ⟨rfl, rfl⟩,
    h.optional? Form.flag? false "json_format" (by decide) ⟨rfl, rfl⟩]

end LoggingSettings

namespace Settings

/-- What stands for missing parts of the settings. -/
def fieldDefaults : List (String × Form) :=
  fieldNames.map fun name => (name, .record [])

theorem isComplete_form (settings : Settings) : settings.form.isComplete = true := by
  simp [form, Form.isComplete, entriesAreComplete, settings.general.isComplete_form,
    settings.catalog.isComplete_form, FilterSettings.form, LoggingSettings.form]

/-- Settings are read back from their stored form, absent values as absent. -/
theorem ofForm?_form (strict : Bool) (settings : Settings) :
    ofForm? strict settings.form = some settings := by
  have hGeneral := settings.general.ofForm?_form strict
  have hCatalog := settings.catalog.ofForm?_form strict
  have hFilters := settings.filters.ofForm?_form strict
  have hLogging := settings.logging.ofForm?_form strict
  simp [ofForm?, form, Form.fields?, Form.optional?, List.lookup_cons, hGeneral, hFilters,
    hCatalog, hLogging]

theorem readsFields : Form.ReadsFields fieldNames fieldDefaults ofForm? := by
  refine .of_bind (fun _ _ => rfl) fun strict fields fields' h => ?_
  simp only [h.optional? (GeneralSettings.ofForm? strict) {} "general" (by decide) ⟨rfl, rfl⟩,
    h.optional? (FilterSettings.ofForm? strict) .off "filters" (by decide) ⟨rfl, rfl⟩,
    h.optional? (CatalogSettings.ofForm? strict) {} "catalog" (by decide) ⟨rfl, rfl⟩,
    h.optional? (LoggingSettings.ofForm? strict) {} "logging" (by decide) ⟨rfl, rfl⟩]

end Settings

end PresetCompiler
