import PresetCompiler.Number.Binary64
import PresetCompiler.Toml.DateTime

/-! The values of a TOML document. -/

namespace PresetCompiler.Toml

/-- A value of a TOML document. -/
inductive Value
  | string (text : String)
  | integer (value : Int)
  | float (value : Binary64)
  | boolean (value : Bool)
  | dateTime (value : DateTime)
  | array (items : List Value)
  | table (entries : List (String × Value))
  deriving Repr

namespace Value

/-- The word for the kind of a value. -/
def typeName : Value → String
  | string _ => "string"
  | integer _ => "integer"
  | float _ => "float"
  | boolean _ => "boolean"
  | dateTime _ => "datetime"
  | array _ => "array"
  | table _ => "table"

/-- The value at a key of a table. -/
def get? (value : Value) (key : String) : Option Value :=
  match value with
  | table entries => entries.lookup key
  | _ => none

/-- The text of a string. -/
def text? : Value → Option String
  | string text => some text
  | _ => none

/-- Whether a value is a table. -/
def isTable : Value → Bool
  | table _ => true
  | _ => false

mutual

/-- Equality of values. Floats are compared as numbers. -/
def equal : Value → Value → Bool
  | string a, string b => a == b
  | integer a, integer b => a == b
  | float a, float b => a.equal b
  | boolean a, boolean b => a == b
  | dateTime a, dateTime b => a == b
  | array a, array b => equalItems a b
  | table a, table b => equalEntries a b
  | _, _ => false

/-- Equality of the items of two arrays. -/
def equalItems : List Value → List Value → Bool
  | [], [] => true
  | a :: as, b :: bs => equal a b && equalItems as bs
  | _, _ => false

/-- Equality of the entries of two tables. -/
def equalEntries : List (String × Value) → List (String × Value) → Bool
  | [], [] => true
  | (k, a) :: as, (l, b) :: bs => k == l && equal a b && equalEntries as bs
  | _, _ => false

end

instance : BEq Value := ⟨equal⟩
instance : Inhabited Value := ⟨table []⟩

/-- The key under which a date-time holds its text where a table is wanted. -/
def dateTimeKey : String := "$__toml_private_datetime"

/-- The entries of a value where a table is wanted. A date-time stands for a table of its text. -/
def entries? : Value → Option (List (String × Value))
  | table entries => some entries
  | dateTime value => some [(dateTimeKey, string value.text)]
  | _ => none

end Value

end PresetCompiler.Toml
