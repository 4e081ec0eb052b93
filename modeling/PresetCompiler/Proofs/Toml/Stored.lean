import PresetCompiler.Proofs.Form.Models
import PresetCompiler.Proofs.Strategy.Insertions
import PresetCompiler.Settings.Document

/-! What is stored is read back: settings, and catalogs that are built by insertions
(`stored_readBack`). -/

namespace PresetCompiler

open Toml

/-! ### Records of records -/

/-- A form that is a text or a flag. -/
def Form.IsFlat : Form → Prop
  | .text _ => True
  | .flag _ => True
  | _ => False

@[simp] theorem Form.isFlat_text (value : String) : (Form.text value).IsFlat := trivial

@[simp] theorem Form.isFlat_flag (value : Bool) : (Form.flag value).IsFlat := trivial

theorem Form.IsFlat.isComplete {form : Form} (h : form.IsFlat) : form.isComplete = true := by
  cases form <;> simp_all [Form.IsFlat, Form.isComplete]

theorem Form.IsFlat.exists_toToml? {form : Form} (h : form.IsFlat) :
    ∃ value, form.toToml? = some value ∧ value.IsPlain := by
  cases form <;> simp_all [Form.IsFlat, Form.toToml?, Value.IsPlain]

/-- Named records of texts and flags. -/
abbrev NamedRecord := String × List (String × Form)

/-- The fields of a record differ, and they are texts and flags. -/
def IsFlatRecord (record : NamedRecord) : Prop :=
  (record.2.map Prod.fst).Nodup ∧ ∀ field ∈ record.2, field.2.IsFlat

/-- Records as the entries of the record that holds them. -/
def recordForms (records : List NamedRecord) : List (String × Form) :=
  records.map fun record => (record.1, .record record.2)

/-- The values of flat fields have the keys of the fields and are plain. -/
theorem entriesToToml_of_isFlat {fields : List (String × Form)}
    (h : ∀ field ∈ fields, field.2.IsFlat) :
    (entriesToToml fields).map Prod.fst = fields.map Prod.fst ∧
      ∀ entry ∈ entriesToToml fields, entry.2.IsPlain := by
  induction fields with
  | nil => simp [entriesToToml]
  | cons field fields ih =>
    obtain ⟨hKeys, hPlain⟩ := ih fun f hf => h f (List.mem_cons_of_mem _ hf)
    obtain ⟨value, hValue, hHere⟩ := (h field List.mem_cons_self).exists_toToml?
    rw [entriesToToml, hValue]
    constructor
    · simp [hKeys]
    · intro entry hEntry
      rcases List.mem_cons.1 hEntry with rfl | hEntry
      · exact hHere
      · exact hPlain entry hEntry

theorem isPlainTable_of_isFlatRecord {record : NamedRecord} (h : IsFlatRecord record) :
    IsPlainTable (record.1, entriesToToml record.2) := by
  obtain ⟨hKeys, hPlain⟩ := entriesToToml_of_isFlat h.2
  exact ⟨hKeys ▸ h.1, hPlain⟩

theorem entriesToToml_recordForms (records : List NamedRecord) :
    entriesToToml (recordForms records) =
      tableValues (records.map fun record => (record.1, entriesToToml record.2)) := by
  induction records with
  | nil => rfl
  | cons record records ih =>
    rw [recordForms, List.map_cons, entriesToToml, ← recordForms, ih]
    rfl

theorem entriesAreComplete_recordForms {records : List NamedRecord}
    (h : ∀ record ∈ records, IsFlatRecord record) :
    entriesAreComplete (recordForms records) = true := by
  refine entriesAreComplete_iff.mpr fun entry hEntry => ?_
  obtain ⟨record, hRecord, rfl⟩ := List.mem_map.mp hEntry
  exact entriesAreComplete_iff.mpr fun field hField =>
    ((h record hRecord).2 field hField).isComplete

/-- A record of flat records is read back from its document. -/
theorem readDocument?_tomlDocument {records : List NamedRecord}
    (hNames : (records.map Prod.fst).Nodup) (h : ∀ record ∈ records, IsFlatRecord record) :
    (readDocument? (Form.record (recordForms records)).tomlDocument).map
        (fun entries => (Value.table entries).form) =
      some (.record (recordForms records)) := by
  have hTables : ∀ table ∈ records.map (fun record => (record.1, entriesToToml record.2)),
      IsPlainTable table := by
    intro table hTable
    obtain ⟨record, hRecord, rfl⟩ := List.mem_map.1 hTable
    exact isPlainTable_of_isFlatRecord (h record hRecord)
  have hRead := readDocument?_writeDocument (.inl rfl) (by decide)
    (by simpa [Function.comp_def] using hNames) hTables
  rw [nest, ← entriesToToml_recordForms] at hRead
  rw [Form.tomlDocument, hRead, Option.map_some, Value.form,
    tomlEntries_entriesToToml _ (entriesAreComplete_recordForms h)]

namespace Settings

/-! ### Settings -/

variable (settings : Settings)

/-- The records of settings. -/
def records (settings : Settings) : List NamedRecord :=
  [("general", Form.entryOf "presets_dir" settings.general.presetsDir ++
      Form.entryOf "active_preset" settings.general.activePreset),
    ("filters", [("remove_hostlists", .flag settings.filters.removeHostlists),
      ("remove_ipsets", .flag settings.filters.removeIpsets),
      ("allzone", .flag settings.filters.allzone), ("wssize", .flag settings.filters.wssize),
      ("wildcard_port_matches", .flag settings.filters.wildcardPortMatches)]),
    ("catalog", Form.entryOf "path" settings.catalog.path),
    ("logging", [("level", .text settings.logging.level),
      ("json_format", .flag settings.logging.jsonFormat)])]

theorem form_eq : settings.form = .record (recordForms settings.records) := rfl

theorem isFlatRecord_of_mem_records : ∀ record ∈ settings.records, IsFlatRecord record := by
  obtain ⟨⟨presetsDir, activePreset⟩, filters, ⟨path⟩, logging⟩ := settings
  simp only [records, List.forall_mem_cons, IsFlatRecord]
  cases presetsDir <;> cases activePreset <;> cases path <;>
    simp [Form.entryOf]

theorem ofToml_toToml : ofToml settings.toToml = .ok settings := by
  have hNames : (settings.records.map Prod.fst).Nodup := by simp [records]
  have hRead := readDocument?_tomlDocument hNames settings.isFlatRecord_of_mem_records
  rw [← form_eq] at hRead
  obtain ⟨entries, hEntries, hForm⟩ := Option.map_eq_some_iff.1 hRead
  rw [ofToml, toToml, hEntries, Option.bind_some, hForm, ofForm?_form]

end Settings

/-! ### Settings and catalogs -/

/-- Settings are read back from their document. So is every catalog that is built by insertions; it
has for each strategy the last text that was inserted, and lists the strategies of a category that
were inserted in ascending order, each once. -/
theorem stored_readBack :
    (∀ settings : Settings, Settings.ofToml settings.toToml = .ok settings) ∧
      ∀ insertions : List Insertion,
        let catalog := Catalog.ofInsertions insertions
        Catalog.ofToml catalog.toToml = .ok catalog ∧
          (∀ insertion ∈ insertions, ∃ args,
            lastArgs? insertions insertion.category insertion.id = some args ∧
              catalog.args insertion.category insertion.id = .ok args) ∧
          ∀ category, (catalog.ids category).Pairwise (· < ·) ∧
            ∀ id, id ∈ catalog.ids category ↔
              ∃ insertion ∈ insertions, insertion.category = category ∧ insertion.id = id := by
  refine ⟨Settings.ofToml_toToml, fun insertions => ?_⟩
  refine ⟨?readBack, ?last, fun category => ⟨?sorted, ?ids⟩⟩
  case readBack => exact Catalog.ofToml_toToml (Catalog.isTextual_ofInsertions insertions)
  case last =>
    intro insertion hInsertion
    obtain ⟨args, hArgs⟩ := exists_lastArgs?_iff.2 ⟨insertion, hInsertion, rfl, rfl⟩
    exact ⟨args, hArgs, Catalog.args_ofInsertions hArgs⟩
  case sorted => exact Catalog.pairwise_ids
  case ids => exact fun id => Catalog.mem_ids_ofInsertions

/-- Quotes, backslashes, line ends and control characters in settings, and a strategy without a name
that is inserted twice. -/
theorem stored_readBack_quotes :
    let settings : Settings :=
      { general := ⟨some "it's \"here\"\\\x01\r\n", none⟩, catalog := ⟨some "'''\"\"\""⟩ }
    let insertions : List Insertion :=
      [⟨"", "", "--new"⟩, ⟨"a.\"b'", "\n", ""⟩, ⟨"", "", "''\"\n\\"⟩]
    let catalog := Catalog.ofInsertions insertions
    Settings.ofToml settings.toToml = .ok settings ∧ Catalog.ofToml catalog.toToml = .ok catalog ∧
      catalog.args "" "" = .ok "''\"\n\\" ∧ "\n" ∈ catalog.ids "a.\"b'" := by
  intro settings insertions catalog
  obtain ⟨hSettings, hCatalogs⟩ := stored_readBack
  obtain ⟨hReadBack, hLast, hIds⟩ := hCatalogs insertions
  obtain ⟨args, hArgs, hText⟩ := hLast ⟨"", "", "--new"⟩ (by simp [insertions])
  have hAgain : lastArgs? insertions "" "" = some "''\"\n\\" := by decide
  have hSame : args = "''\"\n\\" := Option.some.inj (hArgs.symm.trans hAgain)
  have hId := ((hIds "a.\"b'").2 "\n").2 ⟨⟨"a.\"b'", "\n", ""⟩, by simp [insertions], rfl, rfl⟩
  exact ⟨hSettings settings, hReadBack, hSame ▸ hText, hId⟩

end PresetCompiler
