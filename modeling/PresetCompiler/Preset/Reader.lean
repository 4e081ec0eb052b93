import PresetCompiler.Block.Annotation
import PresetCompiler.Preset.Header

/-! Reading preset documents. Reading never fails: what is not recognised is kept as argument
lines. -/

namespace PresetCompiler

open Text

/-- The line that stands between two blocks. -/
def separator : String := "--new"

/-- Beginnings of the lines that open the first block. -/
def filterLeads : List String :=
  ["--filter-tcp", "--filter-udp", "--filter-l7"]

/-- Whether a line opens the first block of a document. -/
def opensBlock (line : List Char) : Bool :=
  startsWithAny (filterLeads.map String.toList) (trim line)

/-- The texts of the blocks in the lines from the first block on. Comments, blank lines and groups
without content are left out. -/
def blockTexts (region : List (List Char)) : List String :=
  let groups := pieces (· = separator.toList) (region.map trim)
  let contents := groups.map (List.filter fun line => line ≠ [] && !isComment line)
  (contents.filter (· ≠ [])).map fun group => String.ofList (joinLines group)

/-- The preset that a document describes. -/
def Preset.parse (document : String) : Preset :=
  let all := lines document.toList
  let header := Header.ofLines (all.takeWhile isHeaderLine)
  let body := all.dropWhile isHeaderLine
  let name := header.name.getD unnamed
  let base := (body.takeWhile fun line => !opensBlock line).map trim
  let region := body.dropWhile fun line => !opensBlock line
  { name
    activePreset := header.activePreset
    baseArgs := String.ofList (joinLines (base.filter (· ≠ [])))
    blocks := Block.merge ((blockTexts region).map Block.ofArgs)
    rawHeader :=
      if joinLines header.lines = joinLines (plainHeader name header.activePreset) then ""
      else String.ofList (joinLines header.lines) }

end PresetCompiler
