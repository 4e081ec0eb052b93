import PresetCompiler.Block.Basic
import PresetCompiler.Text.Find

/-! The category that the name of a list file stands for: `lists/ipset-cloudflare.txt` is a list of
`cloudflare`. -/

namespace PresetCompiler

/-- Endings of a list file's stem that say only that it is a list. -/
def listEndings : List String :=
  ["-hosts", "-ips", "-ipset", "-hostlist", "_hosts", "_ips"]

/-- The beginning of a list file's stem that says only that it is a list. -/
def listLead : String := "ipset-"

/-- The part of a path after its last `/` or `\`. -/
def fileName (path : List Char) : List Char :=
  (path.reverse.takeWhile fun c => c ≠ '/' && c ≠ '\\').reverse

/-- The file name without its last extension. -/
def fileStem (name : List Char) : List Char :=
  match Text.splitLast '.' name with
  | some (stem, _) => stem
  | none => name

/-- The stem without the first list ending that it has and without the list lead. -/
def plainStem (stem : List Char) : List Char :=
  let stem := (listEndings.findSome? fun tail => Text.before? tail.toList stem).getD stem
  (Text.after? listLead.toList stem).getD stem

/-- The category of a list file. The affixes are recognised in lower case only, and the result is
lower-cased. -/
def categoryOfPath (path : List Char) : String :=
  match plainStem (fileStem (fileName path)) with
  | [] => unknownCategory
  | stem => String.ofList (Text.lower stem)

end PresetCompiler
