import PresetCompiler.Text.Find
import PresetCompiler.Toml.Quoted
import PresetCompiler.Toml.Value

/-! Reading the values of TOML that hold no other values: strings, booleans, numbers, dates. -/

namespace PresetCompiler.Toml

open Text

/-- The digits that continue a number, and the rest. An underscore may stand between two digits. -/
def moreDigits? (isDigit : Char → Bool) : List Char → Option (List Char × List Char)
  | [] => some ([], [])
  | c :: rest =>
    if isDigit c then (moreDigits? isDigit rest).map fun (ds, rest) => (c :: ds, rest)
    else if c = '_' then
      match rest with
      | d :: more =>
        if isDigit d then (moreDigits? isDigit more).map fun (ds, rest) => (d :: ds, rest)
        else none
      | [] => none
    else some ([], c :: rest)

/-- The digits of a number, of which there is at least one, and the rest. -/
def digits? (isDigit : Char → Bool) : List Char → Option (List Char × List Char)
  | [] => none
  | c :: rest =>
    if isDigit c then (moreDigits? isDigit rest).map fun (ds, rest) => (c :: ds, rest) else none

/-- The digits of a whole decimal number, which starts with zero only when it is zero. -/
def wholeDigits? : List Char → Option (List Char × List Char)
  | [] => none
  | c :: rest => if c = '0' then some (['0'], rest) else digits? Char.isDigit (c :: rest)

/-- The number written with some digits in a base. -/
def digitsValue (base : Nat) (digits : List Char) : Nat :=
  digits.foldl (fun value c => value * base + (hexDigit? c).getD 0) 0

/-- The sign at the start of a text, whether it is a minus, and the rest. -/
def readSign : List Char → Bool × List Char
  | [] => (false, [])
  | c :: rest =>
    if c = '-' then (true, rest) else if c = '+' then (false, rest) else (false, c :: rest)

/-- The greatest integer of a document. The least one is one further from zero. -/
def maxInteger : Int := 9223372036854775807

/-- An integer that a document may hold. -/
def integer? (value : Int) : Option Value :=
  if -maxInteger - 1 ≤ value ∧ value ≤ maxInteger then some (.integer value) else none

/-- A float, which must not be too great. -/
def float? (value : Binary64) : Option Value :=
  match value with
  | .infinite false => none
  | value => some (.float value)

/-- Reads the exponent of a float at the start of a text, when there is one. -/
def readExponent? : List Char → Option (Option Int × List Char)
  | [] => some (none, [])
  | c :: rest =>
    if c = 'e' ∨ c = 'E' then do
      let (negative, rest) := readSign rest
      let (digits, rest) ← digits? Char.isDigit rest
      let size : Int := digitsValue 10 digits
      return (some (if negative then -size else size), rest)
    else some (none, c :: rest)

/-- Reads the fraction of a float at the start of a text, when there is one. -/
def readDecimals? : List Char → Option (Option (List Char) × List Char)
  | [] => some (none, [])
  | c :: rest =>
    if c = '.' then (digits? Char.isDigit rest).map fun (ds, rest) => (some ds, rest)
    else some (none, c :: rest)

/-- Reads a decimal number: an integer, or a float when it has a fraction or an exponent. -/
def readDecimal? (text : List Char) : Option (Value × List Char) := do
  let (negative, rest) := readSign text
  if let some rest := after? "inf".toList rest then return (.float (.infinite negative), rest)
  if let some rest := after? "nan".toList rest then return (.float .nan, rest)
  let (whole, rest) ← wholeDigits? rest
  let (decimals, rest) ← readDecimals? rest
  let (exponent, rest) ← readExponent? rest
  match decimals, exponent with
  | none, none =>
    let size : Int := digitsValue 10 whole
    return (← integer? (if negative then -size else size), rest)
  | _, _ =>
    let decimals := decimals.getD []
    let value := Binary64.ofDecimal negative (digitsValue 10 (whole ++ decimals))
      (exponent.getD 0 - decimals.length)
    return (← float? value, rest)

/-- Whether a character is a digit in a base. -/
def isDigitIn (base : Nat) (c : Char) : Bool :=
  match hexDigit? c with
  | some d => d < base
  | none => false

/-- Reads an integer with digits in a base. -/
def readInBase? (base : Nat) (text : List Char) : Option (Value × List Char) := do
  let (digits, rest) ← digits? (isDigitIn base) text
  return (← integer? (digitsValue base digits), rest)

/-- Reads a number. -/
def readNumber? : List Char → Option (Value × List Char)
  | '0' :: 'x' :: rest => readInBase? 16 rest
  | '0' :: 'o' :: rest => readInBase? 8 rest
  | '0' :: 'b' :: rest => readInBase? 2 rest
  | text => readDecimal? text

/-- Reads a boolean. -/
def readBoolean? (text : List Char) : Option (Value × List Char) :=
  match after? "true".toList text with
  | some rest => some (.boolean true, rest)
  | none => (after? "false".toList text).map fun rest => (.boolean false, rest)

/-- Reads a value that holds no other values. -/
def readScalar? (text : List Char) : Option (Value × List Char) :=
  match text with
  | [] => none
  | c :: _ =>
    if c = '"' ∨ c = '\'' then
      (readString? text).map fun (cs, rest) => (.string (String.ofList cs), rest)
    else if c = 't' ∨ c = 'f' then readBoolean? text
    else
      match readDateTime? text with
      | some (value, rest) => some (.dateTime value, rest)
      | none => readNumber? text

end PresetCompiler.Toml
