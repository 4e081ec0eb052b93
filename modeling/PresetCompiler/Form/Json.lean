import PresetCompiler.Form.Basic
import PresetCompiler.Json.Value

/-! Stored forms as JSON. -/

namespace PresetCompiler

mutual

/-- The JSON value of a form. -/
def Form.toJson : Form → Json
  | .absent => .null
  | .text value => .string value
  | .flag value => .boolean value
  | .list items => .array (itemsToJson items)
  | .record entries => .object (entriesToJson entries)
  | .other => .null

/-- The JSON values of the items of a list. -/
def itemsToJson : List Form → List Json
  | [] => []
  | item :: rest => item.toJson :: itemsToJson rest

/-- The JSON values of the entries of a record. -/
def entriesToJson : List (String × Form) → List (String × Json)
  | [] => []
  | (key, form) :: rest => (key, form.toJson) :: entriesToJson rest

end

mutual

/-- The form of a JSON value. -/
def Json.form : Json → Form
  | .null => .absent
  | .string value => .text value
  | .boolean value => .flag value
  | .array items => .list (jsonItems items)
  | .object entries => .record (jsonEntries entries)
  | _ => .other

/-- The forms of the items of an array. -/
def jsonItems : List Json → List Form
  | [] => []
  | item :: rest => item.form :: jsonItems rest

/-- The forms of the entries of an object. -/
def jsonEntries : List (String × Json) → List (String × Form)
  | [] => []
  | (key, value) :: rest => (key, value.form) :: jsonEntries rest

end

mutual

/-- A complete form is read back from its JSON value. -/
theorem Form.form_toJson (form : Form) (h : form.isComplete = true) : form.toJson.form = form := by
  match form with
  | .absent => simp [Form.isComplete] at h
  | .text value => rfl
  | .flag value => rfl
  | .list items => exact congrArg Form.list (jsonItems_itemsToJson items h)
  | .record entries => exact congrArg Form.record (jsonEntries_entriesToJson entries h)
  | .other => simp [Form.isComplete] at h

theorem jsonItems_itemsToJson (items : List Form) (h : itemsAreComplete items = true) :
    jsonItems (itemsToJson items) = items := by
  match items with
  | [] => rfl
  | item :: rest =>
    simp only [itemsAreComplete, Bool.and_eq_true] at h
    simp only [itemsToJson, jsonItems, Form.form_toJson item h.1, jsonItems_itemsToJson rest h.2]

theorem jsonEntries_entriesToJson (entries : List (String × Form))
    (h : entriesAreComplete entries = true) : jsonEntries (entriesToJson entries) = entries := by
  match entries with
  | [] => rfl
  | (key, form) :: rest =>
    simp only [entriesAreComplete, Bool.and_eq_true] at h
    simp only [entriesToJson, jsonEntries, Form.form_toJson form h.1,
      jsonEntries_entriesToJson rest h.2]

end

end PresetCompiler
