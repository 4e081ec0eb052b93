import PresetCompiler.Form.Basic
import PresetCompiler.Toml.Value

/-! Stored forms as TOML. -/

namespace PresetCompiler

open Toml

mutual

/-- The TOML value of a form, when it has one. -/
def Form.toToml? : Form → Option Value
  | .text value => some (.string value)
  | .flag value => some (.boolean value)
  | .list items => some (.array (itemsToToml items))
  | .record entries => some (.table (entriesToToml entries))
  | _ => none

/-- The TOML values of the items of a list. -/
def itemsToToml : List Form → List Value
  | [] => []
  | item :: rest => item.toToml?.toList ++ itemsToToml rest

/-- The TOML values of the entries of a record. -/
def entriesToToml : List (String × Form) → List (String × Value)
  | [] => []
  | (key, form) :: rest => (form.toToml?.map fun value => (key, value)).toList ++ entriesToToml rest

end

mutual

/-- The form of a TOML value. A date-time stands for a record of its text. -/
def Toml.Value.form : Value → Form
  | .string value => .text value
  | .boolean value => .flag value
  | .array items => .list (tomlItems items)
  | .table entries => .record (tomlEntries entries)
  | .dateTime value => .record [(Value.dateTimeKey, .text value.text)]
  | _ => .other

/-- The forms of the items of an array. -/
def tomlItems : List Value → List Form
  | [] => []
  | item :: rest => item.form :: tomlItems rest

/-- The forms of the entries of a table. -/
def tomlEntries : List (String × Value) → List (String × Form)
  | [] => []
  | (key, value) :: rest => (key, value.form) :: tomlEntries rest

end

mutual

/-- A complete form has a TOML value, from which it is read back. -/
theorem Form.form_toToml? (form : Form) (h : form.isComplete = true) :
    form.toToml?.map Toml.Value.form = some form := by
  match form with
  | .absent => simp [Form.isComplete] at h
  | .text value => rfl
  | .flag value => rfl
  | .list items => exact congrArg (some ∘ Form.list) (tomlItems_itemsToToml items h)
  | .record entries => exact congrArg (some ∘ Form.record) (tomlEntries_entriesToToml entries h)
  | .other => simp [Form.isComplete] at h

theorem tomlItems_itemsToToml (items : List Form) (h : itemsAreComplete items = true) :
    tomlItems (itemsToToml items) = items := by
  match items with
  | [] => rfl
  | item :: rest =>
    simp only [itemsAreComplete, Bool.and_eq_true] at h
    obtain ⟨value, hValue, hForm⟩ := Option.map_eq_some_iff.1 (Form.form_toToml? item h.1)
    simp only [itemsToToml, hValue, Option.toList_some, List.singleton_append, tomlItems, hForm,
      tomlItems_itemsToToml rest h.2]

theorem tomlEntries_entriesToToml (entries : List (String × Form))
    (h : entriesAreComplete entries = true) : tomlEntries (entriesToToml entries) = entries := by
  match entries with
  | [] => rfl
  | (key, form) :: rest =>
    simp only [entriesAreComplete, Bool.and_eq_true] at h
    obtain ⟨value, hValue, hForm⟩ := Option.map_eq_some_iff.1 (Form.form_toToml? form h.1)
    simp only [entriesToToml, hValue, Option.map_some, Option.toList_some, List.singleton_append,
      tomlEntries, hForm, tomlEntries_entriesToToml rest h.2]

end

end PresetCompiler
