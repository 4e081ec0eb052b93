import PresetCompiler.Number.Shortest
import PresetCompiler.Toml.Spelling
import PresetCompiler.Toml.Value

/-! Writing TOML documents. A table is written as a section: first its plain values, a line each,
then the sections of its tables. -/

namespace PresetCompiler.Toml

/-! ### Values within a line -/

/-- The items of an array as written: each of several on a line of its own. -/
def writeItems : List (List Char) → List Char
  | [] => []
  | [item] => item
  | items => items.flatMap (fun item => "\n    ".toList ++ item ++ [',']) ++ ['\n']

/-- The text of a key with its value. -/
def writeEntry (entry : List Char × List Char) : List Char :=
  entry.1 ++ " = ".toList ++ entry.2

/-- An inline table as written. -/
def writeInline (entries : List (List Char)) : List Char :=
  if entries = [] then "\x7b\x7d".toList
  else "\x7b ".toList ++ List.intercalate ", ".toList entries ++ " \x7d".toList

mutual

/-- A value as written after its key. -/
def Value.write : Value → List Char
  | .string text => writeString text
  | .integer value => (toString value).toList
  | .float value => value.text.toList
  | .boolean value => (if value then "true" else "false").toList
  | .dateTime value => value.text.toList
  | .array items => '[' :: writeItems (writeEach items) ++ [']']
  | .table entries => writeInline (writePairs entries)

/-- The items of an array, each as written. -/
def writeEach : List Value → List (List Char)
  | [] => []
  | item :: rest => item.write :: writeEach rest

/-- The entries of an inline table, each as written. -/
def writePairs : List (String × Value) → List (List Char)
  | [] => []
  | (key, value) :: rest => writeEntry (writeKey key, value.write) :: writePairs rest

end

/-! ### Sections -/

/-- Whether a value is written as one section or more. -/
def Value.isSections : Value → Bool
  | .table _ => true
  | .array items => items ≠ [] && items.all Value.isTable
  | _ => false

/-- A section of a document: the path of its table, whether it adds the table to an array, and the
plain values of the table. -/
structure Section where
  path : List String
  isElement : Bool
  values : List (String × Value)

/-- The entries that are lines of their table's own section. -/
def plainEntries (entries : List (String × Value)) : List (String × Value) :=
  entries.filter fun entry => !entry.2.isSections

mutual

/-- The sections of a value at a path. A table that only holds other tables has none of its own. -/
def Value.sections (path : List String) : Value → List Section
  | .table entries =>
    let values := plainEntries entries
    let own := if values ≠ [] ∨ entries = [] then [⟨path, false, values⟩] else []
    own ++ entrySections path entries
  | .array items => if items.all Value.isTable then elementSections path items else []
  | _ => []

/-- The sections of the entries of a table. -/
def entrySections (path : List String) : List (String × Value) → List Section
  | [] => []
  | (key, value) :: rest => value.sections (path ++ [key]) ++ entrySections path rest

/-- The sections of the tables of an array. -/
def elementSections (path : List String) : List Value → List Section
  | [] => []
  | .table entries :: rest =>
    ⟨path, true, plainEntries entries⟩ :: entrySections path entries ++ elementSections path rest
  | _ :: rest => elementSections path rest

end

/-- The header line of a section. -/
def Section.header (s : Section) : List Char :=
  let path := List.intercalate ['.'] (s.path.map writeKey)
  if s.path = [] then []
  else if s.isElement then "[[".toList ++ path ++ "]]\n".toList
  else '[' :: path ++ "]\n".toList

/-- A section as written. -/
def Section.write (s : Section) : List Char :=
  s.header ++ s.values.flatMap fun (key, value) => writeEntry (writeKey key, value.write) ++ ['\n']

/-- The sections of a document. -/
def documentSections (entries : List (String × Value)) : List Section :=
  let values := plainEntries entries
  (if values = [] then [] else [⟨[], false, values⟩]) ++ entrySections [] entries

/-- The document with the given entries, in their order, with an empty line between sections. -/
def writeDocument (entries : List (String × Value)) : String :=
  String.ofList (List.intercalate ['\n'] ((documentSections entries).map Section.write))

end PresetCompiler.Toml
