import PresetCompiler.Number.Shortest

/-! JSON values and their text, compact or with a line for every item. -/

namespace PresetCompiler

/-- A JSON value. The entries of an object are in the order in which they are written. -/
inductive Json
  | null
  | boolean (value : Bool)
  | integer (value : Int)
  | decimal (value : Binary64)
  | string (text : String)
  | array (items : List Json)
  | object (entries : List (String × Json))
  deriving Repr, Inhabited

namespace Json

/-- The small hexadecimal digit of a number below sixteen. -/
def hexDigit (n : Nat) : Char :=
  Char.ofNat (if n < 10 then '0'.toNat + n else 'a'.toNat + n - 10)

/-- A character as it stands in a string. -/
def writeChar (c : Char) : List Char :=
  if c = '"' then ['\\', '"']
  else if c = '\\' then ['\\', '\\']
  else if c = '\x08' then ['\\', 'b']
  else if c = '\x0c' then ['\\', 'f']
  else if c = '\n' then ['\\', 'n']
  else if c = '\r' then ['\\', 'r']
  else if c = '\t' then ['\\', 't']
  else if c.toNat < 0x20 then
    ['\\', 'u', '0', '0', hexDigit (c.toNat / 16), hexDigit (c.toNat % 16)]
  else [c]

/-- A string as written. -/
def writeString (text : String) : List Char :=
  '"' :: text.toList.flatMap writeChar ++ ['"']

/-- The text of a value that holds no other values. A number without finite value is null. -/
def writeScalar : Json → List Char
  | .boolean value => (if value then "true" else "false").toList
  | .integer value => (toString value).toList
  | .decimal (.finite negative significand exponent) =>
    (Binary64.finite negative significand exponent).text.toList
  | .string text => writeString text
  | _ => "null".toList

mutual

/-- A value on one line without blanks. -/
def write : Json → List Char
  | .array items => '[' :: List.intercalate [','] (writeItems items) ++ [']']
  | .object entries => '\x7b' :: List.intercalate [','] (writeEntries entries) ++ ['\x7d']
  | value => value.writeScalar

/-- The items of an array, each as written. -/
def writeItems : List Json → List (List Char)
  | [] => []
  | item :: rest => item.write :: writeItems rest

/-- The entries of an object, each as written. -/
def writeEntries : List (String × Json) → List (List Char)
  | [] => []
  | (key, value) :: rest => (writeString key ++ ':' :: value.write) :: writeEntries rest

end

/-- The start of a line at a depth of nesting. -/
def newLine (depth : Nat) : List Char :=
  '\n' :: List.replicate (2 * depth) ' '

/-- Items between brackets, each on a line of its own; without items nothing stands between. -/
def writeLines (opening closing : Char) (depth : Nat) (items : List (List Char)) : List Char :=
  if items = [] then [opening, closing]
  else
    opening :: List.intercalate [','] (items.map fun item => newLine (depth + 1) ++ item) ++
      newLine depth ++ [closing]

mutual

/-- A value with every item and entry on a line of its own, indented by two spaces a level. -/
def writePretty (depth : Nat) : Json → List Char
  | .array items => writeLines '[' ']' depth (writePrettyItems (depth + 1) items)
  | .object entries => writeLines '\x7b' '\x7d' depth (writePrettyEntries (depth + 1) entries)
  | value => value.writeScalar

/-- The items of an array, each with its lines. -/
def writePrettyItems (depth : Nat) : List Json → List (List Char)
  | [] => []
  | item :: rest => item.writePretty depth :: writePrettyItems depth rest

/-- The entries of an object, each with its lines. -/
def writePrettyEntries (depth : Nat) : List (String × Json) → List (List Char)
  | [] => []
  | (key, value) :: rest =>
    (writeString key ++ ": ".toList ++ value.writePretty depth) :: writePrettyEntries depth rest

end

/-- The compact text of a value. -/
def text (value : Json) : String :=
  String.ofList value.write

/-- The text of a value with a line for every item and entry. -/
def prettyText (value : Json) : String :=
  String.ofList (value.writePretty 0)

end Json

end PresetCompiler
