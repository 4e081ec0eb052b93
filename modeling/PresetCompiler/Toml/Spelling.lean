import PresetCompiler.Toml.Quoted

/-! How keys and strings are written: in the plainest form that can hold the text. -/

namespace PresetCompiler.Toml

/-- Whether a character is a control character other than a tab or a line feed. -/
def isControl (c : Char) : Bool :=
  (c.toNat < 0x20 && c ≠ '\t' && c ≠ '\n') || c.toNat = 0x7F

/-- Whether a text has a run of at least `size` characters `c`; `seen` of them stand before it. -/
def hasRun (c : Char) (size seen : Nat) : List Char → Bool
  | [] => size ≤ seen
  | d :: rest => size ≤ seen || hasRun c size (if d = c then seen + 1 else 0) rest

/-- The capital hexadecimal digit of a number below sixteen. -/
def hexDigit (n : Nat) : Char :=
  Char.ofNat (if n < 10 then '0'.toNat + n else 'A'.toNat + n - 10)

/-- The escape of a character that needs one wherever backslashes escape. A line feed does not when
the string may have several lines, and double quotes are dealt with apart. -/
def escape? (multiline : Bool) (c : Char) : Option (List Char) :=
  if c = '\x08' then some ['\\', 'b']
  else if c = '\t' then some ['\\', 't']
  else if c = '\n' then if multiline then none else some ['\\', 'n']
  else if c = '\x0c' then some ['\\', 'f']
  else if c = '\r' then some ['\\', 'r']
  else if c = '\\' then some ['\\', '\\']
  else if isControl c then
    some ['\\', 'u', '0', '0', hexDigit (c.toNat / 16), hexDigit (c.toNat % 16)]
  else none

/-- A text with its escapes. A double quote is escaped in a string of one line, and in a string of
several lines after two that are not; `seen` of these stand before the text. -/
def escapeFrom (multiline : Bool) (seen : Nat) : List Char → List Char
  | [] => []
  | c :: rest =>
    if c = '"' then
      if multiline ∧ seen < 2 then '"' :: escapeFrom multiline (seen + 1) rest
      else '\\' :: '"' :: escapeFrom multiline 0 rest
    else (escape? multiline c).getD [c] ++ escapeFrom multiline 0 rest

/-- What stands at either end of a string in a style. -/
def QuoteStyle.delimiter (style : QuoteStyle) : List Char :=
  List.replicate (if style.multiline then 3 else 1) style.mark

/-- A text written in a style. A text with line feeds starts on a line of its own. -/
def QuoteStyle.write (style : QuoteStyle) (text : List Char) : List Char :=
  let lead := if style.multiline ∧ '\n' ∈ text then ['\n'] else []
  let body := if style.escapes then escapeFrom style.multiline 0 text else text
  style.delimiter ++ lead ++ body ++ style.delimiter

/-- Whether a text can be written in a style without escapes, save those of tabs. -/
def QuoteStyle.suits (style : QuoteStyle) (text : List Char) : Bool :=
  !text.any isControl && !(style.escapes && text.contains '\\') &&
    !hasRun style.mark (if style.multiline then 3 else 1) 0 text &&
    (style.multiline || !text.contains '\n')

/-- The styles in the order in which they are tried. -/
def quoteStyles : List QuoteStyle :=
  [⟨'"', false⟩, ⟨'\'', false⟩, ⟨'"', true⟩, ⟨'\'', true⟩]

/-- The style of a string. -/
def stringStyle (text : List Char) : QuoteStyle :=
  (quoteStyles.find? fun style => style.suits text).getD ⟨'"', text.contains '\n'⟩

/-- A string as written. -/
def writeString (text : String) : List Char :=
  (stringStyle text.toList).write text.toList

/-- The style of a key that needs quotes: always one of a single line. -/
def keyStyle (text : List Char) : QuoteStyle :=
  ((quoteStyles.take 2).find? fun style => style.suits text).getD ⟨'"', false⟩

/-- Whether a character may stand in a key without quotes. -/
def isBareKeyChar (c : Char) : Bool :=
  c.isAlphanum || c = '-' || c = '_'

/-- A key as written. -/
def writeKey (key : String) : List Char :=
  let text := key.toList
  if text ≠ [] ∧ text.all isBareKeyChar then text else (keyStyle text).write text

end PresetCompiler.Toml
