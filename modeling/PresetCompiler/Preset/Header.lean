import PresetCompiler.Preset.Basic
import PresetCompiler.Text.Find
import PresetCompiler.Text.Lines

/-! The header of a preset document: the comment lines before the first line of content. A comment
may be a directive, which names the preset or the active preset. -/

namespace PresetCompiler

open Text

/-- The character that begins a comment. -/
def commentMark : Char := '#'

/-- Whether a trimmed line is a comment. -/
def isComment (line : List Char) : Bool :=
  line.head? = some commentMark

/-- The small letter that a character of a directive keyword is compared as. Beside the ASCII
letters, U+017F counts as `s` and U+212A as `k`. -/
def foldLetter (c : Char) : Char :=
  if c = '\u017f' then 's' else if c = '\u212a' then 'k' else c.toLower

/-- What follows a keyword, in any case, at the start of a text. -/
def afterKeyword? : List Char → List Char → Option (List Char)
  | [], text => some text
  | _ :: _, [] => none
  | k :: keyword, c :: text =>
    if foldLetter c = foldLetter k then afterKeyword? keyword text else none

/-- The value of a directive line, `# keyword: value`, for one keyword. The value is not empty. -/
def directive? (keyword : String) (line : List Char) : Option (List Char) :=
  match line with
  | [] => none
  | c :: rest =>
    if c = commentMark then
      match afterKeyword? keyword.toList (trimStart rest) with
      | none => none
      | some rest =>
        match trimStart rest with
        | ':' :: value => if trim value = [] then none else some (trim value)
        | _ => none
    else none

/-- Whether a line belongs to a header: it is blank or a comment. -/
def isHeaderLine (line : List Char) : Bool :=
  let plain := trim line
  plain = [] || isComment plain

/-- What the header lines of a document say. -/
structure Header where
  name : Option String
  activePreset : Option String
  /-- The lines from the first comment to the last, as written. -/
  lines : List (List Char)
  deriving DecidableEq

/-- A header under way: what the lines so far say. -/
structure HeaderReading where
  name : Option String := none
  /-- Whether a `Preset` directive gave the name. -/
  isNamed : Bool := false
  activePreset : Option String := none
  /-- The lines kept so far, the last one first. -/
  kept : List (List Char) := []

namespace HeaderReading

/-- Takes notice of what a trimmed comment states. A `Strategy` directive gives the name only where
no `Preset` directive came before it. -/
def heed (reading : HeaderReading) (comment : List Char) : HeaderReading :=
  match directive? "Preset" comment with
  | some name => { reading with name := some (String.ofList name), isNamed := true }
  | none =>
    match directive? "ActivePreset" comment with
    | some active => { reading with activePreset := some (String.ofList active) }
    | none =>
      match directive? "Strategy" comment with
      | some name =>
        if reading.isNamed then reading else { reading with name := some (String.ofList name) }
      | none => reading

/-- Reads one more header line. Blank lines are kept only after a comment. -/
def next (reading : HeaderReading) (line : List Char) : HeaderReading :=
  let plain := trim line
  if plain = [] then
    if reading.kept = [] then reading else { reading with kept := line :: reading.kept }
  else { reading with kept := line :: reading.kept }.heed plain

end HeaderReading

/-- Reads the header lines of a document, one after the other. Blank lines at the end are not part
of the header. -/
def Header.ofLines (region : List (List Char)) : Header :=
  let reading := region.foldl HeaderReading.next {}
  { name := reading.name
    activePreset := reading.activePreset
    lines := (reading.kept.dropWhile fun line => trim line = []).reverse }

/-- The header lines that state a name and an active preset and nothing else. -/
def plainHeader (name : String) (activePreset : Option String) : List (List Char) :=
  ("# Preset: " ++ name).toList ::
    (activePreset.map fun active => ("# ActivePreset: " ++ active).toList).toList

end PresetCompiler
