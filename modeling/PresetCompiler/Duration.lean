/-! Spans of time, held as whole seconds and the nanoseconds beyond them, each in a machine word.
What a span stands for is its length in nanoseconds (`Duration.toNanos`), by which spans are
compared and multiplied. -/

namespace PresetCompiler

/-! ### Arithmetic that may not fit in a word -/

/-- The sum of two words, none when it is no word. -/
def addWords? (a b : UInt64) : Option UInt64 :=
  if a.toNat + b.toNat < UInt64.size then some (a + b) else none

/-- The product of two words, none when it is no word. -/
def mulWords? (a b : UInt64) : Option UInt64 :=
  if a.toNat * b.toNat < UInt64.size then some (a * b) else none

theorem addWords?_eq_some_iff {a b c : UInt64} :
    addWords? a b = some c ↔ c.toNat = a.toNat + b.toNat := by
  have hFits := c.toNat_lt_size
  rw [addWords?]
  split
  · rename_i h
    rw [Option.some_inj, ← UInt64.toNat_inj, UInt64.toNat_add, Nat.mod_eq_of_lt h]
    exact eq_comm
  · simp only [reduceCtorEq, false_iff]
    omega

theorem mulWords?_eq_some_iff {a b c : UInt64} :
    mulWords? a b = some c ↔ c.toNat = a.toNat * b.toNat := by
  have hFits := c.toNat_lt_size
  rw [mulWords?]
  split
  · rename_i h
    rw [Option.some_inj, ← UInt64.toNat_inj, UInt64.toNat_mul, Nat.mod_eq_of_lt h]
    exact eq_comm
  · simp only [reduceCtorEq, false_iff]
    omega

/-! ### Spans -/

/-- A span of time. -/
structure Duration where
  seconds : UInt64
  /-- What is left beyond whole seconds. -/
  nanos : UInt32
  nanos_lt : nanos.toNat < 1000000000
  deriving DecidableEq, Repr

namespace Duration

/-- The length of a span in nanoseconds. -/
def toNanos (span : Duration) : Nat :=
  span.seconds.toNat * 1000000000 + span.nanos.toNat

/-- What is left of a count of nanoseconds beyond whole seconds. -/
def restNanos (nanos : UInt64) : UInt32 :=
  (nanos % 1000000000).toUInt32

theorem toNat_restNanos (nanos : UInt64) :
    (restNanos nanos).toNat = nanos.toNat % 1000000000 := by
  rw [restNanos, UInt64.toNat_toUInt32, UInt64.toNat_mod]
  exact Nat.mod_eq_of_lt (Nat.lt_trans (Nat.mod_lt _ (by decide)) (by decide))

theorem restNanos_lt (nanos : UInt64) : (restNanos nanos).toNat < 1000000000 :=
  toNat_restNanos nanos ▸ Nat.mod_lt _ (by decide)

/-- The span of some milliseconds. -/
def ofMillis (millis : UInt64) : Duration :=
  ⟨millis / 1000, restNanos (millis % 1000 * 1000000), restNanos_lt _⟩

/-- A span as often as a count says, none when its seconds do not fit. The nanoseconds of all parts
fit in a word, and the whole seconds among them are carried. -/
def times? (span : Duration) (count : UInt32) : Option Duration :=
  let nanos := span.nanos.toUInt64 * count.toUInt64
  (mulWords? span.seconds count.toUInt64).bind fun whole =>
    (addWords? whole (nanos / 1000000000)).map fun seconds =>
      ⟨seconds, restNanos nanos, restNanos_lt nanos⟩

/-- Spans are compared by their seconds, and by what is left when those are the same. -/
instance : LE Duration :=
  ⟨fun a b => a.seconds < b.seconds ∨ a.seconds = b.seconds ∧ a.nanos ≤ b.nanos⟩

instance (a b : Duration) : Decidable (a ≤ b) :=
  inferInstanceAs (Decidable (a.seconds < b.seconds ∨ a.seconds = b.seconds ∧ a.nanos ≤ b.nanos))

instance : Min Duration := minOfLe

/-! ### Lengths -/

theorem toNanos_inj {a b : Duration} : a.toNanos = b.toNanos ↔ a = b := by
  refine ⟨fun h => ?_, fun h => h ▸ rfl⟩
  obtain ⟨seconds, nanos, hNanos⟩ := a
  obtain ⟨seconds', nanos', hNanos'⟩ := b
  simp only [toNanos] at h
  obtain rfl : seconds = seconds' := UInt64.toNat_inj.mp (by omega)
  obtain rfl : nanos = nanos' := UInt32.toNat_inj.mp (by omega)
  rfl

theorem le_iff {a b : Duration} : a ≤ b ↔ a.toNanos ≤ b.toNanos := by
  have hA := a.nanos_lt
  have hB := b.nanos_lt
  change a.seconds < b.seconds ∨ a.seconds = b.seconds ∧ a.nanos ≤ b.nanos ↔ _
  rw [UInt64.lt_iff_toNat_lt, ← UInt64.toNat_inj, UInt32.le_iff_toNat_le, toNanos, toNanos]
  omega

theorem toNanos_min (a b : Duration) : (min a b).toNanos = min a.toNanos b.toNanos := by
  rw [show min a b = if a ≤ b then a else b from rfl]
  split
  · rename_i h
    exact (Nat.min_eq_left (le_iff.mp h)).symm
  · rename_i h
    exact (Nat.min_eq_right (Nat.le_of_not_le fun hLe => h (le_iff.mpr hLe))).symm

theorem toNanos_lt (span : Duration) : span.toNanos < UInt64.size * 1000000000 := by
  have hSeconds := span.seconds.toNat_lt_size
  have hNanos := span.nanos_lt
  rw [toNanos]
  omega

theorem toNanos_ofMillis (millis : UInt64) :
    (ofMillis millis).toNanos = millis.toNat * 1000000 := by
  have hLess : millis.toNat % 1000 < 1000 := Nat.mod_lt _ (by decide)
  have hFits : millis.toNat % 1000 * 1000000 < UInt64.size :=
    Nat.lt_trans (Nat.mul_lt_mul_of_pos_right hLess (by decide)) (by decide)
  have hRest : (millis % 1000 * 1000000).toNat = millis.toNat % 1000 * 1000000 := by
    rw [UInt64.toNat_mul, UInt64.toNat_mod]
    exact Nat.mod_eq_of_lt hFits
  rw [ofMillis, toNanos, toNat_restNanos, hRest, UInt64.toNat_div,
    show UInt64.toNat 1000 = 1000 from rfl]
  omega

/-- Every length below the limit of the seconds is the length of a span. -/
theorem exists_toNanos_eq {length : Nat} (h : length < UInt64.size * 1000000000) :
    ∃ span : Duration, span.toNanos = length := by
  have hSeconds : (UInt64.ofNat (length / 1000000000)).toNat = length / 1000000000 :=
    UInt64.toNat_ofNat_of_lt' (by omega)
  have hNanos : (UInt32.ofNat (length % 1000000000)).toNat = length % 1000000000 :=
    UInt32.toNat_ofNat_of_lt' (Nat.lt_trans (Nat.mod_lt _ (by decide)) (by decide))
  refine ⟨⟨.ofNat (length / 1000000000), .ofNat (length % 1000000000), by omega⟩, ?_⟩
  rw [toNanos, hSeconds, hNanos]
  exact Nat.div_add_mod' length 1000000000

/-- The nanoseconds of all parts fit in a word. -/
theorem toNat_nanos_mul (span : Duration) (count : UInt32) :
    (span.nanos.toUInt64 * count.toUInt64).toNat = span.nanos.toNat * count.toNat := by
  rw [UInt64.toNat_mul, UInt32.toNat_toUInt64, UInt32.toNat_toUInt64]
  refine Nat.mod_eq_of_lt ?_
  calc span.nanos.toNat * count.toNat
      ≤ 1000000000 * UInt32.size :=
        Nat.mul_le_mul (Nat.le_of_lt span.nanos_lt) (Nat.le_of_lt count.toNat_lt_size)
    _ < UInt64.size := by decide

/-- The parts of a multiple, as its carry gives them. -/
theorem times?_eq_some_iff_parts {span multiple : Duration} {count : UInt32} :
    span.times? count = some multiple ↔
      multiple.seconds.toNat =
          span.seconds.toNat * count.toNat + span.nanos.toNat * count.toNat / 1000000000 ∧
        multiple.nanos.toNat = span.nanos.toNat * count.toNat % 1000000000 := by
  have hRest := toNat_restNanos (span.nanos.toUInt64 * count.toUInt64)
  rw [toNat_nanos_mul] at hRest
  simp only [times?, Option.bind_eq_some_iff, Option.map_eq_some_iff, mulWords?_eq_some_iff,
    addWords?_eq_some_iff, UInt64.toNat_div, toNat_nanos_mul, UInt32.toNat_toUInt64]
  constructor
  · rintro ⟨whole, hWhole, seconds, hSeconds, rfl⟩
    exact ⟨hWhole ▸ hSeconds, hRest⟩
  · rintro ⟨hSeconds, hNanos⟩
    have hFits : span.seconds.toNat * count.toNat < UInt64.size := by
      have := multiple.seconds.toNat_lt_size
      omega
    have hWhole := UInt64.toNat_ofNat_of_lt' hFits
    refine ⟨.ofNat _, hWhole, multiple.seconds, hWhole.symm ▸ hSeconds, ?_⟩
    obtain ⟨seconds, nanos, hLess⟩ := multiple
    obtain rfl := UInt32.toNat_inj.mp (hRest.trans hNanos.symm)
    rfl

/-- A multiple of a span is the span of the multiplied length, whenever there is such a span. -/
theorem times?_eq_some_iff {span multiple : Duration} {count : UInt32} :
    span.times? count = some multiple ↔ multiple.toNanos = span.toNanos * count.toNat := by
  have hNanos := multiple.nanos_lt
  rw [times?_eq_some_iff_parts, toNanos, toNanos, Nat.add_mul, Nat.mul_right_comm]
  omega

/-- Only a multiple longer than every span is missing. -/
theorem toNanos_lt_of_times?_eq_none {span : Duration} {count : UInt32}
    (h : span.times? count = none) (other : Duration) :
    other.toNanos < span.toNanos * count.toNat := by
  refine Nat.lt_of_not_le fun hLe => ?_
  obtain ⟨multiple, hMultiple⟩ := exists_toNanos_eq (Nat.lt_of_le_of_lt hLe other.toNanos_lt)
  rw [times?_eq_some_iff.mpr hMultiple] at h
  contradiction

end Duration

end PresetCompiler
