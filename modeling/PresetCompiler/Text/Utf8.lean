/-! Reading bytes as UTF-8 text. Bytes that are not valid are either refused or replaced: every
maximal sequence that begins a character but does not complete one becomes one U+FFFD, and so does
every byte that begins no character. -/

namespace PresetCompiler.Text

/-- The character that stands for bytes that encode none. -/
def replacement : Char := '\uFFFD'

/-- Where the reading of bytes stands: between characters, or within one that still owes `owed`
bytes, of which the next lies from `low` to `high`, with the bits of `code` read so far. -/
inductive Utf8State
  | between
  | within (owed low high code : Nat)
  deriving DecidableEq, Repr

/-- The characters completed by a byte that stands between characters, and the state after it. -/
def Utf8State.first (b : Nat) : List Char × Utf8State :=
  if b < 0x80 then ([Char.ofNat b], .between)
  else if 0xC2 ≤ b ∧ b ≤ 0xDF then ([], .within 1 0x80 0xBF (b - 0xC0))
  else if b = 0xE0 then ([], .within 2 0xA0 0xBF 0)
  else if b = 0xED then ([], .within 2 0x80 0x9F 0xD)
  else if 0xE1 ≤ b ∧ b ≤ 0xEF then ([], .within 2 0x80 0xBF (b - 0xE0))
  else if b = 0xF0 then ([], .within 3 0x90 0xBF 0)
  else if 0xF1 ≤ b ∧ b ≤ 0xF3 then ([], .within 3 0x80 0xBF (b - 0xF0))
  else if b = 0xF4 then ([], .within 3 0x80 0x8F 4)
  else ([replacement], .between)

/-- The characters completed by one byte, and the state after it. A byte that cannot continue a
character ends that character and is read as a first byte. -/
def Utf8State.step (state : Utf8State) (b : Nat) : List Char × Utf8State :=
  match state with
  | .between => first b
  | .within owed low high code =>
    if low ≤ b ∧ b ≤ high then
      let code := code * 64 + (b - 0x80)
      if owed ≤ 1 then ([Char.ofNat code], .between)
      else ([], .within (owed - 1) 0x80 0xBF code)
    else
      let (cs, next) := first b
      (replacement :: cs, next)

/-- The characters of the bytes that follow a state. -/
def Utf8State.run (state : Utf8State) : List UInt8 → List Char
  | [] =>
    match state with
    | .between => []
    | .within .. => [replacement]
  | b :: bytes =>
    let (cs, next) := state.step b.toNat
    cs ++ next.run bytes

/-- The text of some bytes, invalid sequences replaced. -/
def decodeReplacing (bytes : ByteArray) : String :=
  match String.fromUTF8? bytes with
  | some text => text
  | none => String.ofList (Utf8State.between.run bytes.data.toList)

/-- Valid bytes are read as the text they encode. -/
theorem decodeReplacing_toUTF8 (text : String) : decodeReplacing text.toUTF8 = text := by
  simp [decodeReplacing, String.fromUTF8?, String.fromUTF8, String.toUTF8, text.isValidUTF8]

end PresetCompiler.Text
