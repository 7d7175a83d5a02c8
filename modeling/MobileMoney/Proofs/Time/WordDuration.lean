import Mathlib.Algebra.Ring.Nat
import MobileMoney.Time.Duration

/-!
# Durations in words

A duration can be kept as seconds in a word of 64 bits and nanoseconds in a word of 32.  Its
products are computed in words and cut to the longest duration where one of them overflows: they
stand for the products of the duration.
-/

namespace MobileMoney

structure WordDuration where
  seconds : UInt64
  nanos : UInt32
  nanos_lt : nanos.toNat < nanosPerSecond

namespace WordDuration

def totalNanos (d : WordDuration) : Nat :=
  d.seconds.toNat * nanosPerSecond + d.nanos.toNat

theorem totalNanos_lt (d : WordDuration) : d.totalNanos < UInt64.size * 1000000000 := by
  have hseconds : d.seconds.toNat < UInt64.size := d.seconds.toNat_lt_size
  have hnanos := d.nanos_lt
  unfold totalNanos nanosPerSecond at *
  omega

/-- The duration that the words stand for. -/
def toDuration (d : WordDuration) : Duration :=
  ⟨d.totalNanos, d.totalNanos_lt⟩

def longest : WordDuration :=
  ⟨18446744073709551615, 999999999, by decide⟩

/-! ## Arithmetic -/

/-- A product of words, unless it overflows. -/
def mulWords? (a b : UInt64) : Option UInt64 :=
  if a.toNat * b.toNat < UInt64.size then some (a * b) else none

/-- A sum of words, unless it overflows. -/
def addWords? (a b : UInt64) : Option UInt64 :=
  if a.toNat + b.toNat < UInt64.size then some (a + b) else none

/-- The nanoseconds of a product.  They fit a word of 64 bits. -/
def scaledNanos (d : WordDuration) (k : UInt32) : UInt64 :=
  d.nanos.toUInt64 * k.toUInt64

theorem toNat_scaledNanos (d : WordDuration) (k : UInt32) :
    (d.scaledNanos k).toNat = d.nanos.toNat * k.toNat := by
  have hproduct : d.nanos.toNat * k.toNat < nanosPerSecond * UInt32.size :=
    Nat.mul_lt_mul'' d.nanos_lt k.toNat_lt_size
  have hword : nanosPerSecond * UInt32.size < 2 ^ 64 := by decide
  rw [scaledNanos, UInt64.toNat_mul, UInt32.toNat_toUInt64, UInt32.toNat_toUInt64]
  exact Nat.mod_eq_of_lt (Nat.lt_trans hproduct hword)

/-- The nanoseconds of a product beyond its whole seconds. -/
def remainingNanos (d : WordDuration) (k : UInt32) : UInt32 :=
  (d.scaledNanos k % 1000000000).toUInt32

theorem toNat_remainingNanos (d : WordDuration) (k : UInt32) :
    (d.remainingNanos k).toNat = d.nanos.toNat * k.toNat % nanosPerSecond := by
  have hsmall : d.nanos.toNat * k.toNat % nanosPerSecond < 2 ^ 32 :=
    Nat.lt_trans (Nat.mod_lt _ (by decide)) (by decide : nanosPerSecond < 2 ^ 32)
  rw [remainingNanos, UInt64.toNat_toUInt32, UInt64.toNat_mod, toNat_scaledNanos]
  exact Nat.mod_eq_of_lt hsmall

theorem remainingNanos_lt (d : WordDuration) (k : UInt32) :
    (d.remainingNanos k).toNat < nanosPerSecond := by
  rw [toNat_remainingNanos]
  exact Nat.mod_lt _ (by decide)

/-- The product with a word, unless it overflows. -/
def scale? (d : WordDuration) (k : UInt32) : Option WordDuration :=
  (mulWords? d.seconds k.toUInt64).bind fun product ↦
    (addWords? product (d.scaledNanos k / 1000000000)).map fun seconds ↦
      ⟨seconds, d.remainingNanos k, d.remainingNanos_lt k⟩

def scale (d : WordDuration) (k : UInt32) : WordDuration :=
  (d.scale? k).getD longest

def atMost (d limit : WordDuration) : WordDuration :=
  if d.seconds < limit.seconds ∨ d.seconds = limit.seconds ∧ d.nanos ≤ limit.nanos then d
  else limit

/-! ## What the words stand for -/

theorem toNat_of_mulWords? {a b product : UInt64} (h : mulWords? a b = some product) :
    product.toNat = a.toNat * b.toNat := by
  obtain ⟨hfits, hproduct⟩ := Option.ite_none_right_eq_some.mp h
  rw [← Option.some.inj hproduct, UInt64.toNat_mul]
  exact Nat.mod_eq_of_lt hfits

theorem le_of_mulWords? {a b : UInt64} (h : mulWords? a b = none) :
    UInt64.size ≤ a.toNat * b.toNat := by
  refine Nat.not_lt.mp fun hfits ↦ ?_
  rw [mulWords?, if_pos hfits] at h
  cases h

theorem toNat_of_addWords? {a b sum : UInt64} (h : addWords? a b = some sum) :
    sum.toNat = a.toNat + b.toNat := by
  obtain ⟨hfits, hsum⟩ := Option.ite_none_right_eq_some.mp h
  rw [← Option.some.inj hsum, UInt64.toNat_add]
  exact Nat.mod_eq_of_lt hfits

theorem le_of_addWords? {a b : UInt64} (h : addWords? a b = none) :
    UInt64.size ≤ a.toNat + b.toNat := by
  refine Nat.not_lt.mp fun hfits ↦ ?_
  rw [addWords?, if_pos hfits] at h
  cases h

/-- The seconds of a product: those of the seconds and those that the nanoseconds carry. -/
def scaledSeconds (d : WordDuration) (k : UInt32) : Nat :=
  d.seconds.toNat * k.toNat + d.nanos.toNat * k.toNat / nanosPerSecond

theorem totalNanos_mul (d : WordDuration) (k : UInt32) :
    d.totalNanos * k.toNat =
      d.scaledSeconds k * nanosPerSecond + d.nanos.toNat * k.toNat % nanosPerSecond := by
  have hcarry := Nat.div_add_mod' (d.nanos.toNat * k.toNat) nanosPerSecond
  rw [totalNanos, scaledSeconds, Nat.add_mul, Nat.add_mul, Nat.add_assoc, hcarry,
    Nat.mul_right_comm]

theorem toNat_carriedSeconds (d : WordDuration) (k : UInt32) :
    (d.scaledNanos k / 1000000000).toNat = d.nanos.toNat * k.toNat / nanosPerSecond := by
  rw [UInt64.toNat_div, toNat_scaledNanos]
  rfl

/-- A product that does not overflow is exact. -/
theorem totalNanos_of_scale? {d e : WordDuration} {k : UInt32} (h : d.scale? k = some e) :
    e.totalNanos = d.totalNanos * k.toNat := by
  rw [scale?, Option.bind_eq_some_iff] at h
  obtain ⟨product, hproduct, h⟩ := h
  obtain ⟨sum, hsum, rfl⟩ := Option.map_eq_some_iff.mp h
  have hseconds : sum.toNat = d.scaledSeconds k := by
    rw [toNat_of_addWords? hsum, toNat_of_mulWords? hproduct, toNat_carriedSeconds,
      UInt32.toNat_toUInt64, scaledSeconds]
  rw [totalNanos_mul, totalNanos, toNat_remainingNanos, hseconds]

/-- A product that overflows is longer than every duration. -/
theorem le_of_scale? {d : WordDuration} {k : UInt32} (h : d.scale? k = none) :
    UInt64.size * nanosPerSecond ≤ d.totalNanos * k.toNat := by
  have hseconds : UInt64.size ≤ d.scaledSeconds k := by
    rw [scaledSeconds, ← toNat_carriedSeconds, ← UInt32.toNat_toUInt64 k]
    cases hproduct : mulWords? d.seconds k.toUInt64 with
    | none => exact Nat.le_add_right_of_le (le_of_mulWords? hproduct)
    | some product =>
      rw [scale?, hproduct, Option.bind_some, Option.map_eq_none_iff] at h
      rw [← toNat_of_mulWords? hproduct]
      exact le_of_addWords? h
  rw [totalNanos_mul]
  exact Nat.le_add_right_of_le (Nat.mul_le_mul_right _ hseconds)

theorem toDuration_scale (d : WordDuration) (k : UInt32) :
    (d.scale k).toDuration = d.toDuration.scale k.toNat := by
  rw [Duration.mk.injEq]
  change (d.scale k).totalNanos = min (d.totalNanos * k.toNat) Duration.maxNanos
  unfold scale
  cases h : d.scale? k with
  | none =>
    have hlong := le_of_scale? h
    have hlongest : longest.totalNanos = Duration.maxNanos := by decide
    have hmost : Duration.maxNanos ≤ d.totalNanos * k.toNat := Nat.le_trans (Nat.sub_le _ _) hlong
    rw [Option.getD_none, hlongest, Nat.min_eq_right hmost]
  | some e =>
    have hmost : e.totalNanos ≤ Duration.maxNanos := Nat.le_sub_one_of_lt e.totalNanos_lt
    rw [Option.getD_some, ← totalNanos_of_scale? h, Nat.min_eq_left hmost]

theorem toDuration_atMost (d limit : WordDuration) :
    (d.atMost limit).toDuration = d.toDuration.atMost limit.toDuration := by
  have hnanos := d.nanos_lt
  have hlimit := limit.nanos_lt
  have horder : (d.seconds < limit.seconds ∨ d.seconds = limit.seconds ∧ d.nanos ≤ limit.nanos) ↔
      d.toDuration.nanos ≤ limit.toDuration.nanos := by
    rw [UInt64.lt_iff_toNat_lt, ← UInt64.toNat_inj, UInt32.le_iff_toNat_le]
    change _ ↔ d.totalNanos ≤ limit.totalNanos
    unfold totalNanos nanosPerSecond at *
    omega
  rw [atMost, Duration.atMost]
  simp only [horder]
  split <;> rfl

end WordDuration

end MobileMoney
