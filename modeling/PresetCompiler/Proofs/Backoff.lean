import Mathlib.Order.MinMax
import Mathlib.Tactic.Ring
import PresetCompiler.Backoff

/-! Delays as numbers. A factor is cut off at the greatest word, and a multiple that is no span of
time would be longer than every span, so that it makes no difference to the shorter of it and the
greatest delay: a delay has the length that whole numbers give it (`delay_exact`). -/

namespace PresetCompiler.Backoff

theorem toNat_factor (attempt : UInt32) :
    (factor attempt).toNat = min (2 ^ attempt.toNat) (2 ^ 32 - 1) := by
  have hAttempt : attempt < 32 ↔ attempt.toNat < 32 := UInt32.lt_iff_toNat_lt
  rw [factor]
  split
  · rename_i h
    have hPower : 2 ^ attempt.toNat ≤ 2 ^ 31 :=
      Nat.pow_le_pow_right (by decide) (Nat.le_of_lt_succ (hAttempt.mp h))
    have hFits : 2 ^ attempt.toNat < 2 ^ 32 := Nat.lt_of_le_of_lt hPower (by decide)
    rw [UInt32.toNat_shiftLeft, Nat.mod_eq_of_lt (hAttempt.mp h), UInt32.toNat_one,
      Nat.one_shiftLeft, Nat.mod_eq_of_lt hFits, min_eq_left (by omega)]
  · rename_i h
    have hPower : 2 ^ 32 ≤ 2 ^ attempt.toNat :=
      Nat.pow_le_pow_right (by decide) (Nat.le_of_not_lt fun hLess => h (hAttempt.mpr hLess))
    rw [min_eq_right (by omega)]
    rfl

variable (policy : Backoff)

theorem toNanos_delay (attempt : UInt32) :
    (policy.delay attempt).toNanos =
      min (policy.initialDelay.toNanos * min (2 ^ attempt.toNat) (2 ^ 32 - 1))
        policy.maxDelay.toNanos := by
  rw [← toNat_factor, delay]
  split
  · rename_i multiple hMultiple
    rw [Duration.toNanos_min, Duration.times?_eq_some_iff.mp hMultiple]
  · rename_i hNone
    exact (min_eq_right (Duration.toNanos_lt_of_times?_eq_none hNone policy.maxDelay).le).symm

/-- A delay is the initial one times the power of two, cut off at the greatest word and at the
greatest delay, as whole numbers have it. So it is never more than the greatest delay and never less
than an earlier one, and as long as the power fits in a word, the next delay is twice the uncut
one. -/
theorem delay_exact :
    (∀ attempt, (policy.delay attempt).toNanos =
      min (policy.initialDelay.toNanos * min (2 ^ attempt.toNat) (2 ^ 32 - 1))
        policy.maxDelay.toNanos) ∧
    (∀ attempt, policy.delay attempt ≤ policy.maxDelay) ∧
    (∀ earlier later, earlier ≤ later → policy.delay earlier ≤ policy.delay later) ∧
    ∀ attempt < 31, (policy.delay (attempt + 1)).toNanos =
      min (2 * policy.initialDelay.toNanos * 2 ^ attempt.toNat) policy.maxDelay.toNanos := by
  refine ⟨policy.toNanos_delay, fun attempt => ?bound, fun earlier later hOrder => ?monotone,
    fun attempt hAttempt => ?double⟩
  case bound =>
    rw [Duration.le_iff, toNanos_delay]
    exact min_le_right _ _
  case monotone =>
    have hPower : 2 ^ earlier.toNat ≤ 2 ^ later.toNat :=
      Nat.pow_le_pow_right (by decide) (UInt32.le_iff_toNat_le.mp hOrder)
    rw [Duration.le_iff, toNanos_delay, toNanos_delay]
    exact min_le_min_right _ (Nat.mul_le_mul_left _ (min_le_min_right _ hPower))
  case double =>
    have hLess : attempt.toNat < 31 := UInt32.lt_iff_toNat_lt.mp hAttempt
    have hNext : (attempt + 1).toNat = attempt.toNat + 1 := by
      rw [UInt32.toNat_add]
      exact Nat.mod_eq_of_lt (by simp only [UInt32.toNat_ofNat]; omega)
    have hPower : 2 ^ (attempt.toNat + 1) ≤ 2 ^ 31 := Nat.pow_le_pow_right (by decide) hLess
    rw [toNanos_delay, hNext, min_eq_left (a := 2 ^ (attempt.toNat + 1)) (by omega)]
    congr 1
    ring

/-- A delay whose double is no span of time, and an attempt beyond all shifts. -/
theorem delay_exact_longest :
    let policy : Backoff :=
      { initialDelay := ⟨0x8000000000000000, 999999999, by decide⟩
        maxDelay := ⟨0xFFFFFFFFFFFFFFFF, 999999999, by decide⟩ }
    policy.initialDelay.times? (factor 1) = none ∧ policy.delay 1 ≤ policy.delay 40 ∧
      policy.delay (0 + 1) = policy.maxDelay ∧ policy.delay 40 = policy.maxDelay := by
  intro policy
  obtain ⟨hExact, -, hMonotone, hDouble⟩ := delay_exact policy
  refine ⟨by decide, hMonotone 1 40 (by decide), ?_, ?_⟩
  · exact Duration.toNanos_inj.mp ((hDouble 0 (by decide)).trans (by decide))
  · exact Duration.toNanos_inj.mp ((hExact 40).trans (by decide))

end PresetCompiler.Backoff
