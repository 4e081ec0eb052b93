import PresetCompiler.Duration

/-! Delays between attempts to replace a file that another program holds open. -/

namespace PresetCompiler

/-- How often a replacement is attempted and how long to wait in between. -/
structure Backoff where
  attempts : UInt32 := 15
  initialDelay : Duration := .ofMillis 30
  maxDelay : Duration := .ofMillis 200
  deriving DecidableEq, Repr

namespace Backoff

instance : Inhabited Backoff := ⟨{}⟩

/-- One bit shifted left within 32 bits, as far as it stays there, and the greatest word beyond. -/
def factor (attempt : UInt32) : UInt32 :=
  if attempt < 32 then 1 <<< attempt else 0xFFFFFFFF

/-- The delay after a failed attempt, counted from zero: the initial delay, doubled each time, and
never more than the greatest delay. A delay that is no span of time counts as more than it. -/
def delay (policy : Backoff) (attempt : UInt32) : Duration :=
  match policy.initialDelay.times? (factor attempt) with
  | some delay => min delay policy.maxDelay
  | none => policy.maxDelay

end Backoff

end PresetCompiler
