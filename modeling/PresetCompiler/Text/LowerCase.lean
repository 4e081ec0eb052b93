import PresetCompiler.Text.LowerCaseTable
import PresetCompiler.Text.Ranges

/-! Lower-casing by the full Unicode mapping: every capital letter has one small letter, U+0130 has
two characters, and a capital sigma at the end of a word becomes a final sigma. -/

namespace PresetCompiler.Text

/-- The small letter of the capital letter with code `n`, when `range` holds it. -/
def CaseRange.apply? (range : CaseRange) (n : Nat) : Option Char :=
  if range.first ≤ n ∧ n ≤ range.last ∧ (n - range.first) % range.step = 0 then
    some (Char.ofNat (n + range.shift).toNat)
  else none

/-- The small form of one character outside any context. -/
def lowerChar (c : Char) : List Char :=
  if c.toNat = 0x130 then ['i', '\u0307']
  else [(caseRanges.findSome? fun range => range.apply? c.toNat).getD c]

/-- Whether the first character that is not ignored next to a sigma is cased. -/
def meetsCased (text : List Char) : Bool :=
  match text.dropWhile (inRanges caseIgnorableRanges) with
  | [] => false
  | c :: _ => inRanges casedRanges c

/-- Lower-cases a text that stands after `before`, which is given backwards. -/
def lowerAfter (before : List Char) : List Char → List Char
  | [] => []
  | c :: rest =>
    let small :=
      if c = 'Σ' then [if meetsCased before && !meetsCased rest then 'ς' else 'σ']
      else lowerChar c
    small ++ lowerAfter (c :: before) rest

/-- The text in lower case. -/
def lower (text : List Char) : List Char :=
  lowerAfter [] text

/-- An ASCII character has its ASCII small letter. -/
theorem lowerChar_ascii {c : Char} (h : c.toNat < 128) : lowerChar c = [c.toLower] := by
  have key : ∀ n : Fin 128, lowerChar (Char.ofNat n.val) = [(Char.ofNat n.val).toLower] := by
    decide +kernel
  have := key ⟨c.toNat, h⟩
  simpa using this

end PresetCompiler.Text
