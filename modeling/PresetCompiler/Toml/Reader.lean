import PresetCompiler.Toml.Scalar
import PresetCompiler.Toml.Spelling
import PresetCompiler.Toml.Tree

/-! Reading TOML documents. Only whether a document can be read matters, not why it cannot, so that
every reader answers with an option. Readers that call themselves count their steps down, from a
number that the length of the document bounds. -/

namespace PresetCompiler.Toml

open Text

/-- Arrays and inline tables are nested less deep than this, and a dotted key has fewer parts. -/
def depthLimit : Nat := 80

/-- The text after the blanks at its start that do not end a line. -/
def skipSpaces (text : List Char) : List Char :=
  text.dropWhile isSpace

/-- The text after a comment at its start, up to the end of the line. -/
def skipComment (text : List Char) : List Char :=
  match text with
  | [] => []
  | c :: rest => if c = '#' then rest.dropWhile isPrintable else text

/-- The text after the rest of a line that says nothing more. -/
def afterLine? (text : List Char) : Option (List Char) :=
  match skipComment (skipSpaces text) with
  | [] => some []
  | text => afterLineEnd? text

/-- The text after the blanks, line ends and comments at its start. -/
def skipFiller : Nat → List Char → List Char
  | 0, text => text
  | fuel + 1, text =>
    match skipComment (skipSpaces text) with
    | [] => []
    | text =>
      match afterLineEnd? text with
      | some rest => skipFiller fuel rest
      | none => text

/-! ### Keys -/

/-- Reads one part of a key. -/
def readKeyPart? (text : List Char) : Option (String × List Char) :=
  match text with
  | [] => none
  | c :: _ =>
    if c = '"' ∨ c = '\'' then
      (readLineString? text).map fun (cs, rest) => (String.ofList cs, rest)
    else
      let part := text.takeWhile isBareKeyChar
      if part = [] then none else some (String.ofList part, text.dropWhile isBareKeyChar)

/-- Reads the parts of a key with dots between them, and the blanks around it. -/
def readKeyParts? : Nat → List Char → Option (List String × List Char)
  | 0, _ => none
  | fuel + 1, text => do
    let (part, rest) ← readKeyPart? (skipSpaces text)
    match skipSpaces rest with
    | '.' :: rest =>
      let (parts, rest) ← readKeyParts? fuel rest
      return (part :: parts, rest)
    | rest => return ([part], rest)

/-- A dotted key: the parts before the last one, and the last. -/
structure KeyPath where
  parents : List String
  key : String
  deriving DecidableEq, Repr

/-- Reads a dotted key, which may not have too many parts. -/
def readKey? (text : List Char) : Option (KeyPath × List Char) := do
  let (parts, rest) ← readKeyParts? depthLimit text
  match parts.getLast? with
  | some key => if parts.length < depthLimit then some (⟨parts.dropLast, key⟩, rest) else none
  | none => none

/-! ### Values -/

mutual

/-- Reads a value at some depth. -/
def readValue? (fuel depth : Nat) (text : List Char) : Option (Value × List Char) :=
  match fuel with
  | 0 => none
  | fuel + 1 =>
    match text with
    | '[' :: rest => do
      if depthLimit ≤ depth + 1 then none
      let (items, rest) ← readItems? fuel (depth + 1) rest
      return (.array items, rest)
    | '{' :: rest => do
      if depthLimit ≤ depth + 1 then none
      let (entries, rest) ←
        match skipSpaces rest with
        | '}' :: rest => some ([], rest)
        | rest => readEntries? fuel (depth + 1) [] rest
      return (.table (entriesToValues entries), rest)
    | text => readScalar? text

/-- Reads the items of an array that are still to come, and the closing bracket. -/
def readItems? (fuel depth : Nat) (text : List Char) : Option (List Value × List Char) :=
  match fuel with
  | 0 => none
  | fuel + 1 =>
    match skipFiller text.length text with
    | ']' :: rest => some ([], rest)
    | text => do
      let (item, rest) ← readValue? fuel depth text
      match skipFiller rest.length rest with
      | ',' :: rest =>
        let (items, rest) ← readItems? fuel depth rest
        return (item :: items, rest)
      | ']' :: rest => return ([item], rest)
      | _ => none

/-- Reads the entries of an inline table that are still to come, and the closing brace. -/
def readEntries? (fuel depth : Nat) (entries : List (String × Node)) (text : List Char) :
    Option (List (String × Node) × List Char) :=
  match fuel with
  | 0 => none
  | fuel + 1 => do
    let (path, rest) ← readKey? text
    let rest ← afterMark? '=' rest
    let (value, rest) ← readValue? fuel depth (skipSpaces rest)
    let entries ← addKey path.parents path.key value .explicit entries
    match skipSpaces rest with
    | ',' :: rest => readEntries? fuel depth entries rest
    | '}' :: rest => return (entries, rest)
    | _ => none

end

/-! ### Documents -/

/-- A document under construction: the tables read so far, and the path of the open one. -/
structure Draft where
  entries : List (String × Node)
  current : List String

/-- The draft before the first line. -/
def Draft.empty : Draft := ⟨[], []⟩

/-- Opens the table of a header. -/
def Draft.open? (draft : Draft) (path : KeyPath) : Option Draft := do
  let entries ← editAt false (openTable path.key) path.parents .explicit draft.entries
  return ⟨entries, path.parents ++ [path.key]⟩

/-- Opens one more table of a header in double brackets. -/
def Draft.openElement? (draft : Draft) (path : KeyPath) : Option Draft := do
  let entries ← editAt false (openElement path.key) path.parents .explicit draft.entries
  return ⟨entries, path.parents ++ [path.key]⟩

/-- Adds a value to the open table. -/
def Draft.add? (draft : Draft) (path : KeyPath) (value : Value) : Option Draft := do
  let entries ←
    editAt false (addKey path.parents path.key value) draft.current .explicit draft.entries
  return { draft with entries }

/-- Reads one statement: a header, or a key with its value. -/
def readStatement? (draft : Draft) (text : List Char) : Option (Draft × List Char) :=
  match text with
  | '[' :: '[' :: rest => do
    let (path, rest) ← readKey? rest
    let rest ← after? [']', ']'] rest
    let draft ← draft.openElement? path
    return (draft, rest)
  | '[' :: rest => do
    let (path, rest) ← readKey? rest
    let rest ← afterMark? ']' rest
    let draft ← draft.open? path
    return (draft, rest)
  | text => do
    let (path, rest) ← readKey? text
    let rest ← afterMark? '=' rest
    let (value, rest) ← readValue? (2 * rest.length + 2) 0 (skipSpaces rest)
    let draft ← draft.add? path value
    return (draft, rest)

/-- Reads the statements that are still to come. -/
def readStatements? : Nat → Draft → List Char → Option Draft
  | 0, _, _ => none
  | fuel + 1, draft, text =>
    match skipSpaces text with
    | [] => some draft
    | text =>
      match afterLine? text with
      | some rest => readStatements? fuel draft rest
      | none => do
        let (draft, rest) ← readStatement? draft text
        readStatements? fuel draft (← afterLine? rest)

/-- The entries of the table that a document describes, in its order. A byte order mark at the start
does not count. -/
def readDocument? (document : String) : Option (List (String × Value)) := do
  let text := document.toList
  let text := if text.head? = some '\uFEFF' then text.tail else text
  let draft ← readStatements? (text.length + 1) .empty text
  return entriesToValues draft.entries

end PresetCompiler.Toml
