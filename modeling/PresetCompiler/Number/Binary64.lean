/-! Binary floating-point numbers of 64 bits, as exact data: a sign, a significand and a power of
two. Decimal text is read to the nearest number, a tie to the even significand. -/

namespace PresetCompiler

/-- A number of the format binary64. A finite one stands for `significand * 2 ^ exponent`, negated
when `negative` holds; the significand is below 2^53, and it is at least 2^52 unless the exponent is
the least one, -1074. -/
inductive Binary64
  | nan
  | infinite (negative : Bool)
  | finite (negative : Bool) (significand : Nat) (exponent : Int)
  deriving DecidableEq, Repr

/-- A power of two. -/
def twoTo (n : Nat) : Nat :=
  Nat.pow 2 n

/-- A power of ten. -/
def tenTo (n : Nat) : Nat :=
  Nat.pow 10 n

namespace Binary64

/-- Equality of numbers: the two zeros are equal, and what is not a number equals nothing. -/
def equal : Binary64 → Binary64 → Bool
  | .infinite a, .infinite b => a == b
  | .finite a m e, .finite b n f => (m == 0 && n == 0) || (a == b && m == n && e == f)
  | _, _ => false

instance : BEq Binary64 := ⟨equal⟩

/-- The quotient of two natural numbers rounded to the nearest one, a tie to the even one. -/
def roundDiv (num den : Nat) : Nat :=
  let q := num / den
  let r := num % den
  if 2 * r < den ∨ (2 * r = den ∧ q % 2 = 0) then q else q + 1

/-- Twice the distance of a rounded quotient from the exact one is at most one divisor. -/
theorem roundDiv_near (num den : Nat) (h : 0 < den) :
    2 * (roundDiv num den * den) ≤ 2 * num + den ∧
      2 * num ≤ 2 * (roundDiv num den * den) + den := by
  have hq := Nat.div_add_mod num den
  have hr := Nat.mod_lt num h
  have hc := Nat.mul_comm den (num / den)
  simp only [roundDiv]
  split
  · omega
  · rw [Nat.add_mul]
    omega

/-- The least exponent of a finite number. -/
def minExponent : Int := -1074

/-- The greatest exponent of a finite number. -/
def maxExponent : Int := 971

/-- The fraction `num / den` divided by a power of two. -/
def divPow (num den : Nat) (k : Int) : Nat × Nat :=
  if 0 ≤ k then (num, den * twoTo k.toNat) else (num * twoTo (-k).toNat, den)

/-- The exponent of the greatest power of two that is at most the positive fraction `num / den`. -/
def floorLog (num den : Nat) : Int :=
  let estimate : Int := (Nat.log2 num : Int) - Nat.log2 den
  let (n, d) := divPow num den estimate
  if d ≤ n then estimate else estimate - 1

/-- The number nearest to the positive fraction `num / den`. -/
def ofFraction (negative : Bool) (num den : Nat) : Binary64 :=
  let k := max (floorLog num den - 52) minExponent
  let (n, d) := divPow num den k
  let m := roundDiv n d
  let (m, k) := if m = twoTo 53 then (twoTo 52, k + 1) else (m, k)
  if maxExponent < k then .infinite negative else .finite negative m k

/-- The number nearest to `digits * 10 ^ scale`. Scales far outside the range of the format are not
worked out. -/
def ofDecimal (negative : Bool) (digits : Nat) (scale : Int) : Binary64 :=
  let size : Int := (Nat.toDigits 10 digits).length
  if digits = 0 ∨ size + scale < -330 then .finite negative 0 minExponent
  else if 310 < size + scale then .infinite negative
  else if 0 ≤ scale then ofFraction negative (digits * tenTo scale.toNat) 1
  else ofFraction negative digits (tenTo (-scale).toNat)

end Binary64

end PresetCompiler
