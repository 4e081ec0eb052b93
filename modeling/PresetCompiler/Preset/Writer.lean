import PresetCompiler.Preset.Reader

/-! Writing preset documents in canonical form: header, base arguments and blocks, with an empty
line between any two of these and around every separator. -/

namespace PresetCompiler

open Text

/-- The header lines of a preset and the empty line after them. -/
def Preset.headerLines (preset : Preset) : List (List Char) :=
  if preset.rawHeader = "" then plainHeader preset.name preset.activePreset ++ [[]]
  else
    let kept := lines preset.rawHeader.toList
    match kept.getLast? with
    | some last => if trim last = [] then kept else kept ++ [[]]
    | none => kept

/-- The lines of the base arguments and the empty line after them. -/
def Preset.baseLines (preset : Preset) : List (List Char) :=
  match contentLines preset.baseArgs.toList with
  | [] => []
  | base => base ++ [[]]

/-- The lines of a preset in canonical form. -/
def Preset.documentLines (preset : Preset) (withHeader : Bool) : List (List Char) :=
  (if withHeader then preset.headerLines else []) ++ preset.baseLines ++
    List.intercalate [[], separator.toList, []]
      (preset.blocks.map fun block => contentLines block.args.toList)

/-- The document of a preset in canonical form. -/
def Preset.render (preset : Preset) (withHeader : Bool) : String :=
  String.ofList (joinLines (preset.documentLines withHeader))

end PresetCompiler
