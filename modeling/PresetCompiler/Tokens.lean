import PresetCompiler.Preset.Reader

/-! The tokens that a preset hands to the program it configures, and their printed form. -/

namespace PresetCompiler

open Text

/-- The tokens of the rest of a line. `token` is the token under way, backwards, when there is one,
and `quoted` says whether the rest starts inside double quotes. -/
def tokensFrom (token : Option (List Char)) (quoted : Bool) : List Char → List String
  | [] => token.toList.map fun cs => String.ofList cs.reverse
  | c :: rest =>
    if c = '"' then tokensFrom (some (token.getD [])) (!quoted) rest
    else if isBlank c && !quoted then
      (token.toList.map fun cs => String.ofList cs.reverse) ++ tokensFrom none false rest
    else tokensFrom (some (c :: token.getD [])) quoted rest

/-- The tokens of an argument text, line by line. Comment lines have none. Blanks separate tokens
except between double quotes, which are not part of a token. -/
def tokenize (text : String) : List String :=
  ((contentLines text.toList).filter fun line => !isComment line).flatMap (tokensFrom none false)

/-- The tokens of a preset: the base arguments, then the blocks with a separator between any two. -/
def Preset.tokens (preset : Preset) : List String :=
  tokenize preset.baseArgs ++
    List.intercalate [separator] (preset.blocks.map fun block => tokenize block.args)

/-- A token as it stands in a printed command line: in quotes when it is empty or holds a blank. -/
def quoteToken (token : String) : String :=
  if token = "" || token.toList.any isBlank then "\"" ++ token ++ "\"" else token

/-- The tokens printed as one command line. -/
def printTokens (tokens : List String) : String :=
  " ".intercalate (tokens.map quoteToken)

end PresetCompiler
