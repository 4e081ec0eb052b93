import PresetCompiler.Fault
import PresetCompiler.Text.Blank

/-! Paths as texts: their parts, and what is made from them without looking at any file. -/

namespace PresetCompiler.Path

open Text

/-- Whether a path starts at the root. -/
def isAbsolute (path : String) : Bool :=
  path.toList.head? = some '/'

/-- The names between the slashes of a path. -/
def names (path : String) : List String :=
  ((pieces (· == '/') path.toList).filter (· ≠ [])).map String.ofList

/-- Whether a path ends with a slash. -/
def endsWithSlash (path : String) : Bool :=
  path.toList.getLast? = some '/'

/-- Whether a path ends in a name that something can have, and not in dots. -/
def endsInName (path : String) : Bool :=
  match (names path).getLast? with
  | some name => name ∉ [".", ".."]
  | none => false

/-- The names on the way along a path. A slash at the end is followed as a dot is. -/
def steps (path : String) : List String :=
  if endsWithSlash path then names path ++ ["."] else names path

/-- The greatest number of bytes of a name. -/
def maxNameBytes : Nat := 255

/-- The greatest number of bytes of a path. -/
def maxPathBytes : Nat := 4095

/-- Refuses a path that can name nothing, whatever files there are. -/
def check (path : String) : Except FileFault Unit :=
  if '\x00' ∈ path.toList then .error .nulInPath
  else if path = "" then .error .notFound
  else if maxPathBytes < path.utf8ByteSize then .error .nameTooLong
  else .ok ()

/-- The parts of a path. A dot that stands for the same directory counts only at the start, where it
says that the path is a relative one. -/
def parts (path : String) : List String :=
  let names := names path
  if isAbsolute path then "/" :: names.filter (· ≠ ".")
  else
    match names with
    | [] => []
    | name :: rest => name :: rest.filter (· ≠ ".")

/-- The path with the given parts. -/
def ofParts : List String → String
  | "/" :: rest => "/" ++ "/".intercalate rest
  | parts => "/".intercalate parts

/-- The path of the directory that holds what a path names. -/
def parent (path : String) : String :=
  ofParts (parts path).dropLast

/-- A path that leads to the directory that holds what a path names. -/
def directory (path : String) : String :=
  if parent path = "" then "." else parent path

/-- A path seen from a directory. -/
def join (directory path : String) : String :=
  if isAbsolute path ∨ directory = "" then path
  else if endsWithSlash directory then directory ++ path
  else directory ++ "/" ++ path

/-- The last part of a path, when it is the name of a file or directory. -/
def fileName? (path : String) : Option String :=
  ((parts path).getLast?).filter fun name => name ∉ [".", "..", "/"]

/-- Whether a name has an extension. A dot at its start begins none. -/
def hasExtension (name : String) : Bool :=
  match splitLast '.' name.toList with
  | some (before, _) => before ≠ []
  | none => false

/-- A path with an extension, which is added when the name has none. Slashes and dots behind the
name are dropped then. -/
def withExtension (extension path : String) : String :=
  match fileName? path with
  | none => path
  | some name =>
    if hasExtension name then path
    else
      let kept := path.toList.reverse.dropWhile fun c => c = '/' || c = '.'
      String.ofList kept.reverse ++ "." ++ extension

end PresetCompiler.Path
