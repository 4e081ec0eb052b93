/-! Padding to a width counted in characters. -/

namespace PresetCompiler.Text

/-- The text with spaces after it, up to `width` characters. -/
def padRight (width : Nat) (text : String) : String :=
  text ++ String.ofList (List.replicate (width - text.toList.length) ' ')

/-- The text with spaces before it, up to `width` characters. -/
def padLeft (width : Nat) (text : String) : String :=
  String.ofList (List.replicate (width - text.toList.length) ' ') ++ text

end PresetCompiler.Text
