import PresetCompiler.Text.Blank

/-! Lines of a text. A line ends at a line feed, and one carriage return before that line feed
belongs to the ending. A carriage return elsewhere is an ordinary character, and so is one at the
end of a last line without a line feed. -/

namespace PresetCompiler.Text

/-- The line without one carriage return at its end. -/
def withoutReturn (line : List Char) : List Char :=
  if line.getLast? = some '\r' then line.dropLast else line

/-- The lines of a text, without their endings. Text that ends with a line feed has no further
empty line after it. -/
def lines (text : List Char) : List (List Char) :=
  let runs := pieces (· == '\n') text
  runs.dropLast.map withoutReturn ++ (runs.getLast?.toList.filter (· ≠ []))

/-- Lines joined by line feeds, with none after the last. -/
def joinLines (ls : List (List Char)) : List Char :=
  List.intercalate ['\n'] ls

/-- The trimmed lines of a text that are not blank. -/
def contentLines (text : List Char) : List (List Char) :=
  ((lines text).map trim).filter (· ≠ [])

theorem mem_contentLines {text line : List Char} (h : line ∈ contentLines text) : line ≠ [] := by
  simpa using (List.mem_filter.1 h).2

end PresetCompiler.Text
