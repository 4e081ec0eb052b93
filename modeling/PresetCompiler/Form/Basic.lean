/-! Stored forms. Presets, blocks and settings are kept as JSON and as TOML; a form is what both
have in common: texts, flags, lists and records. -/

namespace PresetCompiler

/-- The stored form of a value. -/
inductive Form
  /-- Nothing, where an optional value may stand. -/
  | absent
  | text (value : String)
  | flag (value : Bool)
  | list (items : List Form)
  | record (entries : List (String × Form))
  /-- What no text, flag, list or record is. -/
  | other
  deriving Repr, Inhabited

mutual

/-- Whether a form has nothing absent in it and nothing of another kind, as the forms have that are
written. -/
def Form.isComplete : Form → Bool
  | .absent => false
  | .text _ => true
  | .flag _ => true
  | .list items => itemsAreComplete items
  | .record entries => entriesAreComplete entries
  | .other => false

/-- Whether all items of a list are complete. -/
def itemsAreComplete : List Form → Bool
  | [] => true
  | item :: rest => item.isComplete && itemsAreComplete rest

/-- Whether all entries of a record are complete. -/
def entriesAreComplete : List (String × Form) → Bool
  | [] => true
  | (_, form) :: rest => form.isComplete && entriesAreComplete rest

end

namespace Form

/-- The text of a form that is one. -/
def text? : Form → Option String
  | text value => some value
  | _ => none

/-- The flag of a form that is one. -/
def flag? : Form → Option Bool
  | flag value => some value
  | _ => none

/-- The items of a form that is a list. -/
def items? : Form → Option (List Form)
  | list items => some items
  | _ => none

/-- The fields of a record, by name. A list has the fields in the order of their names; when
`strict` holds, it may not have more items than there are names. -/
def fields? (strict : Bool) (names : List String) : Form → Option (List (String × Form))
  | record entries => some entries
  | list items => if strict ∧ names.length < items.length then none else some (names.zip items)
  | _ => none

/-- Reads a value that may be absent. -/
def orAbsent? (read? : Form → Option α) : Form → Option (Option α)
  | absent => some none
  | form => (read? form).map some

/-- Reads a field that has to be there. -/
def required? (read? : Form → Option α) (name : String) (fields : List (String × Form)) :
    Option α :=
  (fields.lookup name).bind read?

/-- Reads a field that has a value of its own when it is missing. -/
def optional? (read? : Form → Option α) (default : α) (name : String)
    (fields : List (String × Form)) : Option α :=
  match fields.lookup name with
  | none => some default
  | some form => read? form

/-- The entry of an optional field, none when it has no value. -/
def entryOf (name : String) (value : Option String) : List (String × Form) :=
  (value.map fun value => (name, text value)).toList

end Form

end PresetCompiler
