import PresetCompiler.Number.Binary64

/-! The shortest decimal that reads back as a given number, and its positional text. -/

namespace PresetCompiler

/-- The decimal `digits * 10 ^ scale`. -/
structure Decimal where
  digits : Nat
  scale : Int
  deriving DecidableEq, Repr

/-- The reals that round to a positive number, as numerators over one denominator: the ends and the
number itself. The ends belong to the interval when `closed` holds. -/
structure RoundingInterval where
  low : Nat
  middle : Nat
  high : Nat
  den : Nat
  closed : Bool

namespace RoundingInterval

/-- The interval of the number `significand * 2 ^ exponent`. Below a power of two the numbers are
twice as close. -/
def ofFinite (significand : Nat) (exponent : Int) : RoundingInterval :=
  let below := if significand = twoTo 52 ∧ Binary64.minExponent < exponent then 1 else 2
  let k := exponent - 2
  let unit := if 0 ≤ k then twoTo k.toNat else 1
  { low := (4 * significand - below) * unit
    middle := 4 * significand * unit
    high := (4 * significand + 2) * unit
    den := if 0 ≤ k then 1 else twoTo (-k).toNat
    closed := significand % 2 = 0 }

/-- Whether a decimal lies in the interval. -/
def contains (interval : RoundingInterval) (decimal : Decimal) : Bool :=
  let num := decimal.digits * if 0 ≤ decimal.scale then tenTo decimal.scale.toNat else 1
  let den := if 0 ≤ decimal.scale then 1 else tenTo (-decimal.scale).toNat
  let point := num * interval.den
  let low := interval.low * den
  let high := interval.high * den
  if interval.closed then low ≤ point && point ≤ high else low < point && point < high

/-- How many digits the middle has before its point, negative for zeros after the point. -/
def magnitude (interval : RoundingInterval) : Int :=
  let whole := interval.middle / interval.den
  if 0 < whole then (Nat.toDigits 10 whole).length
  else
    let zeros := (List.range 400).find? fun k => interval.den ≤ interval.middle * tenTo k
    1 - (zeros.getD 0 : Int)

/-- The best decimal with `count` digits: of the two neighbours of the middle those that lie in the
interval, and of both the nearer one, or the greater one when they are equally near. -/
def withDigits? (interval : RoundingInterval) (count : Nat) : Option Decimal :=
  let scale := interval.magnitude - count
  let num := if 0 ≤ scale then interval.middle else interval.middle * tenTo (-scale).toNat
  let den := if 0 ≤ scale then interval.den * tenTo scale.toNat else interval.den
  let floor : Decimal := ⟨num / den, scale⟩
  let ceiling : Decimal := ⟨num / den + 1, scale⟩
  let nearest := if 2 * (num % den) < den then floor else ceiling
  if interval.contains nearest then some nearest
  else if interval.contains floor then some floor
  else if interval.contains ceiling then some ceiling
  else none

/-- The shortest decimal in the interval. Seventeen digits always suffice. -/
def shortest (interval : RoundingInterval) : Decimal :=
  ((List.range 17).findSome? fun k => interval.withDigits? (k + 1)).getD ⟨0, 0⟩

end RoundingInterval

/-- The decimal without zeros at the end of its digits. -/
def Decimal.stripped (decimal : Decimal) : Decimal :=
  let digits := Nat.toDigits 10 decimal.digits
  let zeros := (digits.reverse.takeWhile (· = '0')).length
  ⟨decimal.digits / tenTo zeros, decimal.scale + zeros⟩

/-- A decimal without exponent, with at least one digit before and after the point. -/
def Decimal.positional (decimal : Decimal) : String :=
  let digits := Nat.toDigits 10 decimal.digits
  if 0 ≤ decimal.scale then
    String.ofList (digits ++ List.replicate decimal.scale.toNat '0') ++ ".0"
  else
    let places := (-decimal.scale).toNat
    let padded := List.replicate (places + 1 - digits.length) '0' ++ digits
    let whole := padded.length - places
    String.ofList (padded.take whole) ++ "." ++ String.ofList (padded.drop whole)

/-- The shortest text of a number: positional, with a point, and without the sign of what is not a
number. -/
def Binary64.text : Binary64 → String
  | .nan => "nan"
  | .infinite negative => if negative then "-inf" else "inf"
  | .finite negative significand exponent =>
    let decimal :=
      if significand = 0 then ⟨0, 0⟩
      else (RoundingInterval.ofFinite significand exponent).shortest.stripped
    (if negative then "-" else "") ++ decimal.positional

end PresetCompiler
