import PresetCompiler.Form.Json
import PresetCompiler.Proofs.Form.Models

/-! Models as JSON values. Whatever value a model is read from, an object or an array, the value
that is written for it is read as the same model (`models_storedAsJson`). -/

namespace PresetCompiler

theorem lookup_jsonEntries (entries : List (String × Json)) (name : String) :
    (jsonEntries entries).lookup name = (entries.lookup name).map Json.form := by
  induction entries with
  | nil => rfl
  | cons entry entries ih =>
    obtain ⟨key, value⟩ := entry
    rw [jsonEntries, List.lookup_cons, List.lookup_cons, ih]
    cases name == key <;> rfl

theorem jsonEntries_zip (names : List String) (items : List Json) :
    jsonEntries (names.zip items) = names.zip (jsonItems items) := by
  induction names generalizing items with
  | nil => rfl
  | cons name names ih =>
    cases items with
    | nil => rfl
    | cons item items => rw [List.zip_cons_cons, jsonEntries, ih, jsonItems, List.zip_cons_cons]

theorem length_jsonItems (items : List Json) : (jsonItems items).length = items.length := by
  induction items with
  | nil => rfl
  | cons item items ih => rw [jsonItems, List.length_cons, ih, List.length_cons]

theorem map_fst_entriesToJson (entries : List (String × Form)) :
    (entriesToJson entries).map Prod.fst = entries.map Prod.fst := by
  induction entries with
  | nil => rfl
  | cons entry entries ih => rw [entriesToJson, List.map_cons, ih, List.map_cons]

theorem valueOr_jsonEntries {defaults : List (String × Form)}
    (h : jsonEntries (entriesToJson defaults) = defaults) (entries : List (String × Json))
    (name : String) : valueOr defaults (jsonEntries entries) name =
      (valueOr (entriesToJson defaults) entries name).map Json.form := by
  have hDefault := lookup_jsonEntries (entriesToJson defaults) name
  rw [h] at hDefault
  rw [valueOr, valueOr, lookup_jsonEntries, hDefault, Option.map_or]

/-! ### Models -/

section Models

variable {α : Type} {names : List String} {defaults : List (String × Form)}
  {leftOut : α → List String} {form : α → Form} {ofForm? : Bool → Form → Option α}

/-- How a model is stored as JSON: as a record of some fields. Some of them have defaults and may be
missing, and some are left out of what is written when the model has nothing there. -/
structure StoredAsJson (names : List String) (defaults : List (String × Form))
    (leftOut : α → List String) (form : α → Form) (ofForm? : Bool → Form → Option α) : Prop where
  /-- A model is read back from the value that is written for it. -/
  readBack : ∀ model, ofForm? true (form model).toJson.form = some model
  /-- So is a model that was read from any other value. -/
  rewritten : ∀ (value : Json) (model), ofForm? true value.form = some model →
    ofForm? true (form model).toJson.form = some model
  /-- An object with all fields but those that are left out is written. -/
  written : ∀ model, ∃ entries, (form model).toJson = .object entries ∧
    entries.map Prod.fst = names.filter (· ∉ leftOut model)
  /-- Only objects and arrays are read. -/
  shape : ∀ (value : Json) (model), ofForm? true value.form = some model →
    (∃ entries, value = .object entries) ∨ ∃ items, value = .array items
  /-- Of an object only the values of the fields count, or the defaults of missing ones. -/
  object : ∀ entries entries' : List (String × Json),
    (∀ name ∈ names, valueOr (entriesToJson defaults) entries name =
      valueOr (entriesToJson defaults) entries' name) →
    ofForm? true (Json.object entries).form = ofForm? true (Json.object entries').form
  /-- An array has the values of the fields in order, and no more than these. -/
  array : ∀ items : List Json, ofForm? true (Json.array items).form =
    if items.length ≤ names.length then ofForm? true (Json.object (names.zip items)).form else none

/-- A reader of fields that reads complete forms back stores models as JSON. -/
theorem Form.ReadsFields.storedAsJson (h : ReadsFields names defaults ofForm?)
    (hDefaults : jsonEntries (entriesToJson defaults) = defaults)
    (hBack : ∀ model, ofForm? true (form model) = some model)
    (hComplete : ∀ model, (form model).isComplete = true)
    (hWritten : ∀ model, ∃ fields, form model = .record fields ∧
      fields.map Prod.fst = names.filter (· ∉ leftOut model)) :
    StoredAsJson names defaults leftOut form ofForm? := by
  have hReadBack (model : α) : ofForm? true (form model).toJson.form = some model := by
    rw [form_toJson _ (hComplete model), hBack]
  refine ⟨hReadBack, fun _ model _ => hReadBack model, fun model => ?written,
    fun value model hRead => ?shape, fun entries entries' hSame => ?object, fun items => ?array⟩
  case written =>
    obtain ⟨fields, hForm, hNames⟩ := hWritten model
    exact ⟨entriesToJson fields, congrArg Form.toJson hForm,
      (map_fst_entriesToJson fields).trans hNames⟩
  case shape =>
    rcases h.shape true value.form model hRead with ⟨fields, hForm⟩ | ⟨items, hForm⟩
    · cases value with
      | object entries => exact .inl ⟨entries, rfl⟩
      | _ => contradiction
    · cases value with
      | array items => exact .inr ⟨items, rfl⟩
      | _ => contradiction
  case object =>
    refine h.record true _ _ fun name hName => ?_
    rw [valueOr_jsonEntries hDefaults, valueOr_jsonEntries hDefaults, hSame name hName]
  case array =>
    rw [show (Json.array items).form = .list (jsonItems items) from rfl, h.list,
      ← jsonEntries_zip, length_jsonItems]
    by_cases hFits : items.length ≤ names.length
    · rw [if_neg (by simpa using hFits), if_pos hFits]
      rfl
    · rw [if_pos ⟨rfl, Nat.lt_of_not_le hFits⟩, if_neg hFits]

end Models

/-! ### Fields that are left out -/

/-- The fields of a block that are left out. -/
def Block.leftOut (block : Block) : List String :=
  if block.syndata = none then ["syndata_dict"] else []

/-- The fields of a preset that are left out. -/
def Preset.leftOut (preset : Preset) : List String :=
  (if preset.activePreset = none then ["active_preset"] else []) ++
    if preset.rawHeader = "" then ["raw_header"] else []

/-- The general settings that are left out. -/
def GeneralSettings.leftOut (settings : GeneralSettings) : List String :=
  (if settings.presetsDir = none then ["presets_dir"] else []) ++
    if settings.activePreset = none then ["active_preset"] else []

/-- The catalog settings that are left out. -/
def CatalogSettings.leftOut (settings : CatalogSettings) : List String :=
  if settings.path = none then ["path"] else []

theorem Block.storedAsJson :
    StoredAsJson fieldNames fieldDefaults leftOut form ofForm? := by
  refine readsFields.storedAsJson rfl (ofForm?_form true) isComplete_form fun block => ⟨_, rfl, ?_⟩
  obtain ⟨category, protocol, targeting, listFile, ports, args, strategyArgs, syndata⟩ := block
  cases syndata <;> simp [leftOut, fieldNames]

theorem Preset.storedAsJson :
    StoredAsJson fieldNames fieldDefaults leftOut form ofForm? := by
  refine readsFields.storedAsJson rfl (ofForm?_form true) isComplete_form fun preset => ⟨_, rfl, ?_⟩
  obtain ⟨name, activePreset, baseArgs, blocks, rawHeader⟩ := preset
  by_cases hHeader : rawHeader = "" <;> cases activePreset <;>
    simp [leftOut, fieldNames, Form.entryOf, hHeader]

theorem FilterSettings.storedAsJson :
    StoredAsJson fieldNames fieldDefaults (fun _ => []) form ofForm? :=
  readsFields.storedAsJson rfl (ofForm?_form true) (fun _ => rfl) fun _ => ⟨_, rfl, rfl⟩

theorem GeneralSettings.storedAsJson :
    StoredAsJson fieldNames fieldDefaults leftOut form ofForm? := by
  refine readsFields.storedAsJson rfl (ofForm?_form true) isComplete_form
    fun settings => ⟨_, rfl, ?_⟩
  obtain ⟨presetsDir, activePreset⟩ := settings
  cases presetsDir <;> cases activePreset <;> rfl

theorem CatalogSettings.storedAsJson :
    StoredAsJson fieldNames fieldDefaults leftOut form ofForm? := by
  refine readsFields.storedAsJson rfl (ofForm?_form true) isComplete_form
    fun settings => ⟨_, rfl, ?_⟩
  obtain ⟨path⟩ := settings
  cases path <;> rfl

theorem LoggingSettings.storedAsJson :
    StoredAsJson fieldNames fieldDefaults (fun _ => []) form ofForm? :=
  readsFields.storedAsJson rfl (ofForm?_form true) (fun _ => rfl) fun _ => ⟨_, rfl, rfl⟩

theorem Settings.storedAsJson :
    StoredAsJson fieldNames fieldDefaults (fun _ => []) form ofForm? :=
  readsFields.storedAsJson rfl (ofForm?_form true) isComplete_form fun _ => ⟨_, rfl, rfl⟩

/-- Every preset, every block and all settings, with each of their parts, are read back from the
JSON value that is written for them. So is what was read from any value that is accepted: an object
in which unknown names do not count and missing fields count as their defaults, or an array of the
fields in their order. -/
theorem models_storedAsJson :
    StoredAsJson Preset.fieldNames Preset.fieldDefaults Preset.leftOut Preset.form Preset.ofForm? ∧
    StoredAsJson Block.fieldNames Block.fieldDefaults Block.leftOut Block.form Block.ofForm? ∧
    StoredAsJson FilterSettings.fieldNames FilterSettings.fieldDefaults (fun _ => [])
      FilterSettings.form FilterSettings.ofForm? ∧
    StoredAsJson Settings.fieldNames Settings.fieldDefaults (fun _ => [])
      Settings.form Settings.ofForm? ∧
    StoredAsJson GeneralSettings.fieldNames GeneralSettings.fieldDefaults GeneralSettings.leftOut
      GeneralSettings.form GeneralSettings.ofForm? ∧
    StoredAsJson CatalogSettings.fieldNames CatalogSettings.fieldDefaults CatalogSettings.leftOut
      CatalogSettings.form CatalogSettings.ofForm? ∧
    StoredAsJson LoggingSettings.fieldNames LoggingSettings.fieldDefaults (fun _ => [])
      LoggingSettings.form LoggingSettings.ofForm? :=
  ⟨Preset.storedAsJson, Block.storedAsJson, FilterSettings.storedAsJson, Settings.storedAsJson,
    GeneralSettings.storedAsJson, CatalogSettings.storedAsJson, LoggingSettings.storedAsJson⟩

/-- An array without its last field, with a block in an object that has an unknown name, a null and
the record form of a protocol. -/
theorem models_storedAsJson_mixed :
    let block : Json := .object [("port", .string "50000"), ("syndata_dict", .null),
      ("args", .string "--filter-udp=50000"), ("comment", .integer 1),
      ("strategy_args", .string ""), ("category", .string "voice"),
      ("protocol", .object [("udp", .null)]), ("filter_mode", .string ""),
      ("filter_file", .string "")]
    let value : Json := .array [.string "Games", .null, .string "--wf-udp=50000", .array [block]]
    ∃ preset, Preset.ofForm? true value.form = some preset ∧
      preset.blocks.map Block.key = [⟨"voice", .udp⟩] ∧
      Preset.ofForm? true preset.form.toJson.form = some preset := by
  intro block value
  exact ⟨_, rfl, rfl, models_storedAsJson.1.rewritten value _ rfl⟩

end PresetCompiler
