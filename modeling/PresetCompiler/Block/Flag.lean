import PresetCompiler.Text.Blank
import PresetCompiler.Text.Find

/-! Values of flags in the text of a block. A flag is written `--name=value` at the start of the
text or after a blank; its value is a run in double quotes, or else a run without blanks. -/

namespace PresetCompiler.Text

/-- The text without the double quotes at either end. -/
def trimQuotes (text : List Char) : List Char :=
  ((text.dropWhile (· = '"')).reverse.dropWhile (· = '"')).reverse

/-- The run up to the first blank, which must not be empty. -/
def bareValue? (text : List Char) : Option (List Char) :=
  let run := text.takeWhile fun c => !isBlank c
  if run = [] then none else some (trimQuotes run)

/-- The value at the start of a text. A quote that is never closed counts as part of a bare value,
whose outer quotes are dropped. -/
def value? : List Char → Option (List Char)
  | [] => none
  | c :: rest =>
    if c = '"' ∧ '"' ∈ rest then some (rest.takeWhile (· ≠ '"'))
    else bareValue? (c :: rest)

/-- The value of the first flag written `lead` in a text. A flag may stand at the start when `free`
holds. -/
def findValue? (lead : List Char) (free : Bool) : List Char → Option (List Char)
  | [] => none
  | c :: rest =>
    match if free then (after? lead (c :: rest)).bind value? else none with
    | some value => some value
    | none => findValue? lead (isBlank c) rest

/-- The value of the first flag `--name=` in a text that has one. -/
def flagValue? (name : String) (text : List Char) : Option (List Char) :=
  findValue? ("--" ++ name ++ "=").toList true text

end PresetCompiler.Text
