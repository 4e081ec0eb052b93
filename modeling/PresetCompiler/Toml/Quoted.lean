/-! Reading the quoted strings of TOML. There are four styles: the mark is a double quote, and then
backslashes escape, or an apostrophe, and then they do not; one mark stands around a string without
line ends, three around one that may have some. -/

namespace PresetCompiler.Toml

/-- A style of quoting. -/
structure QuoteStyle where
  mark : Char
  multiline : Bool
  deriving DecidableEq, Repr

/-- Whether backslashes escape in a style. -/
def QuoteStyle.escapes (style : QuoteStyle) : Bool :=
  style.mark = '"'

/-- Where the reading of a quoted string stands. -/
inductive QuotedState
  | plain
  /-- After a backslash. -/
  | escape
  /-- Within the digits of a character code, of which `owed` more follow. -/
  | code (owed value : Nat)
  /-- After so many marks in a row. -/
  | marks (count : Nat)
  /-- After a carriage return, which a line feed has to follow. -/
  | carriage
  /-- Within the blanks that a backslash at the end of a line takes away; `ended` says whether the
  line has ended. -/
  | gap (ended : Bool)
  /-- After a carriage return within such blanks. -/
  | gapCarriage
  deriving DecidableEq, Repr

/-- Whether a character may stand in a document as itself, apart from line ends. -/
def isPrintable (c : Char) : Bool :=
  c = '\t' || (0x20 ≤ c.toNat && c.toNat ≠ 0x7F)

/-- The blanks within a line of a document. -/
def isSpace (c : Char) : Bool :=
  c = ' ' || c = '\t'

/-- The value of a hexadecimal digit. -/
def hexDigit? (c : Char) : Option Nat :=
  if c.isDigit then some (c.toNat - '0'.toNat)
  else if 'a' ≤ c ∧ c ≤ 'f' then some (c.toNat - 'a'.toNat + 10)
  else if 'A' ≤ c ∧ c ≤ 'F' then some (c.toNat - 'A'.toNat + 10)
  else none

/-- The character that a letter stands for after a backslash. -/
def escapedChar? (c : Char) : Option Char :=
  match c with
  | 'b' => some '\x08'
  | 't' => some '\t'
  | 'n' => some '\n'
  | 'f' => some '\x0c'
  | 'r' => some '\r'
  | '"' => some '"'
  | '\\' => some '\\'
  | _ => none

/-- The character with a code, when there is one. -/
def charOfCode? (n : Nat) : Option Char :=
  if n.isValidChar then some (Char.ofNat n) else none

namespace QuoteStyle

/-- What a character in plain text adds to the string, and the state after it. -/
def plainNext (style : QuoteStyle) (c : Char) : Option (List Char × QuotedState) :=
  if c = style.mark then some ([], .marks 1)
  else if style.escapes ∧ c = '\\' then some ([], .escape)
  else if style.multiline ∧ c = '\n' then some (['\n'], .plain)
  else if style.multiline ∧ c = '\r' then some ([], .carriage)
  else if isPrintable c then some ([c], .plain)
  else none

/-- The state after a character of the blanks that a backslash at the end of a line takes away. -/
def gapNext? (ended : Bool) (c : Char) : Option QuotedState :=
  if isSpace c then some (.gap ended)
  else if c = '\n' then some (.gap true)
  else if c = '\r' then some .gapCarriage
  else none

/-- What a character adds to the string, and the state after it. -/
def next (style : QuoteStyle) (state : QuotedState) (c : Char) :
    Option (List Char × QuotedState) :=
  match state with
  | .plain => style.plainNext c
  | .escape =>
    match escapedChar? c with
    | some d => some ([d], .plain)
    | none =>
      if c = 'u' then some ([], .code 4 0)
      else if c = 'U' then some ([], .code 8 0)
      else if style.multiline then (gapNext? false c).map fun state => ([], state)
      else none
  | .code owed value => do
    let value := value * 16 + (← hexDigit? c)
    if owed ≤ 1 then return ([← charOfCode? value], .plain)
    else return ([], .code (owed - 1) value)
  | .marks count =>
    if c = style.mark then some ([], .marks (count + 1))
    else do
      let (cs, state) ← style.plainNext c
      return (List.replicate count style.mark ++ cs, state)
  | .carriage => if c = '\n' then some (['\n'], .plain) else none
  | .gap ended =>
    match gapNext? ended c with
    | some state => some ([], state)
    | none => if ended then style.plainNext c else none
  | .gapCarriage => if c = '\n' then some ([], .gap true) else none

/-- The marks that belong to the string when it ends after so many in a row. Of the marks around a
string of several lines the last three end it, and at most two before them belong to it. -/
def tail? (style : QuoteStyle) : QuotedState → Option (List Char)
  | .marks count =>
    if !style.multiline then some []
    else if 3 ≤ count ∧ count ≤ 5 then some (List.replicate (count - 3) style.mark)
    else none
  | _ => none

/-- Whether a string has ended before a character. -/
def endsBefore (style : QuoteStyle) (state : QuotedState) (c : Char) : Bool :=
  match state with
  | .marks count => !style.multiline || (3 ≤ count && c ≠ style.mark)
  | _ => false

/-- The string from a state on, and the rest after it. -/
def read? (style : QuoteStyle) (state : QuotedState) : List Char → Option (List Char × List Char)
  | [] => (style.tail? state).map fun tail => (tail, [])
  | c :: rest =>
    if style.endsBefore state c then (style.tail? state).map fun tail => (tail, c :: rest)
    else do
      let (cs, state) ← style.next state c
      let (more, rest) ← style.read? state rest
      return (cs ++ more, rest)

end QuoteStyle

/-- The text after a line end at its start, when there is one. -/
def afterLineEnd? : List Char → Option (List Char)
  | '\n' :: rest => some rest
  | '\r' :: '\n' :: rest => some rest
  | _ => none

/-- Reads a string on one line. -/
def readLineString? : List Char → Option (List Char × List Char)
  | [] => none
  | c :: rest =>
    if c = '"' ∨ c = '\'' then QuoteStyle.read? ⟨c, false⟩ .plain rest else none

/-- Reads a string in any style. A line end right after three marks does not belong to it. -/
def readString? : List Char → Option (List Char × List Char)
  | a :: b :: c :: rest =>
    if (a = '"' ∨ a = '\'') ∧ a = b ∧ b = c then
      QuoteStyle.read? ⟨a, true⟩ .plain ((afterLineEnd? rest).getD rest)
    else readLineString? (a :: b :: c :: rest)
  | text => readLineString? text

end PresetCompiler.Toml
