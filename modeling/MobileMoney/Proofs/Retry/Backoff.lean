import Mathlib.Order.Monotone.Basic
import MobileMoney.Proofs.Time.WordDuration
import MobileMoney.Settings.Basic

/-!
# Pauses between attempts

The pause after an attempt is the base delay, doubled for each attempt before it and at most sixteen
times, and then cut to the limit of the policy.  That a product of durations is cut to the longest
one is never seen, since no limit is longer.  Computed in words the pause is the same: nothing that
is computed on the way overflows.
-/

namespace MobileMoney

namespace Duration

variable (d limit : Duration)

theorem nanos_le_maxNanos : d.nanos ≤ maxNanos :=
  Nat.le_sub_one_of_lt d.nanos_lt

theorem nanos_atMost : (d.atMost limit).nanos = min d.nanos limit.nanos := by
  unfold atMost
  split
  · next hle => exact (Nat.min_eq_left hle).symm
  · next hlt => exact (Nat.min_eq_right (Nat.le_of_not_le hlt)).symm

/-- A product that is cut to a limit might as well be exact. -/
theorem nanos_scale_atMost (k : Nat) :
    ((d.scale k).atMost limit).nanos = min limit.nanos (d.nanos * k) := by
  rw [nanos_atMost, Nat.min_comm]
  change min limit.nanos (min (d.nanos * k) maxNanos) = _
  rw [Nat.min_left_comm, Nat.min_eq_left limit.nanos_le_maxNanos, Nat.min_comm]

end Duration

namespace RetryPolicy

variable (policy : RetryPolicy)

theorem nanos_backoff (attempt : Nat) :
    (policy.backoff attempt).nanos =
      min policy.maxDelay.nanos (policy.baseDelay.nanos * 2 ^ min (attempt - 1) 16) :=
  Duration.nanos_scale_atMost _ _ _

theorem backoff_mono {a b : Nat} (h : a ≤ b) :
    (policy.backoff a).nanos ≤ (policy.backoff b).nanos := by
  have hdoublings : min (a - 1) 16 ≤ min (b - 1) 16 := by omega
  have hpow : 2 ^ min (a - 1) 16 ≤ 2 ^ min (b - 1) 16 := Nat.pow_le_pow_right (by decide) hdoublings
  have hproduct := Nat.mul_le_mul_left policy.baseDelay.nanos hpow
  rw [nanos_backoff, nanos_backoff]
  omega

theorem backoff_le (attempt : Nat) :
    (policy.backoff attempt).nanos ≤ policy.maxDelay.nanos := by
  rw [nanos_backoff]
  exact Nat.min_le_left _ _

/-- A base delay within the limit is the first pause. -/
theorem backoff_one (h : policy.baseDelay.nanos ≤ policy.maxDelay.nanos) :
    policy.backoff 1 = policy.baseDelay := by
  rw [Duration.mk.injEq, nanos_backoff, Nat.sub_self, Nat.zero_min, Nat.pow_zero, Nat.mul_one]
  exact Nat.min_eq_right h

end RetryPolicy

/-! ## Words -/

namespace WordDuration

/-- The number of attempts before the given one. -/
def earlier (attempt : UInt32) : UInt32 :=
  if attempt = 0 then 0 else attempt - 1

/-- How often the base delay is doubled for the pause after an attempt. -/
def doublings (attempt : UInt32) : UInt32 :=
  if earlier attempt ≤ 16 then earlier attempt else 16

def factor (attempt : UInt32) : UInt32 :=
  1 <<< doublings attempt

/-- The pause after an attempt, in words. -/
def backoff (base limit : WordDuration) (attempt : UInt32) : WordDuration :=
  (base.scale (factor attempt)).atMost limit

theorem toNat_earlier (attempt : UInt32) : (earlier attempt).toNat = attempt.toNat - 1 := by
  unfold earlier
  split
  · next hzero =>
    rw [hzero]
    rfl
  · next hpos =>
    have hone : 1 ≤ attempt := by
      rw [UInt32.le_iff_toNat_le]
      rw [← UInt32.toNat_inj] at hpos
      exact Nat.one_le_iff_ne_zero.mpr hpos
    exact UInt32.toNat_sub_of_le _ _ hone

theorem toNat_doublings (attempt : UInt32) :
    (doublings attempt).toNat = min (attempt.toNat - 1) 16 := by
  rw [← toNat_earlier]
  unfold doublings
  split
  · next hfew => exact (Nat.min_eq_left (UInt32.le_iff_toNat_le.mp hfew)).symm
  · next hmany =>
    exact (Nat.min_eq_right (Nat.le_of_not_le (mt UInt32.le_iff_toNat_le.mpr hmany))).symm

/-- The shift stays inside the word. -/
theorem toNat_factor (attempt : UInt32) :
    (factor attempt).toNat = 2 ^ (doublings attempt).toNat := by
  have hfew : (doublings attempt).toNat ≤ 16 := by
    rw [toNat_doublings]
    exact Nat.min_le_right _ _
  have hshift : (doublings attempt).toNat % 32 = (doublings attempt).toNat := by omega
  have hword : 2 ^ (doublings attempt).toNat < 2 ^ 32 :=
    Nat.pow_lt_pow_right (by decide) (by omega)
  rw [factor, UInt32.toNat_shiftLeft, hshift]
  change (1 <<< _) % 2 ^ 32 = _
  rw [Nat.one_shiftLeft, Nat.mod_eq_of_lt hword]

theorem toDuration_backoff (base limit : WordDuration) (attempt : UInt32) (maxAttempts : Nat) :
    (backoff base limit attempt).toDuration =
      RetryPolicy.backoff ⟨maxAttempts, base.toDuration, limit.toDuration⟩ attempt.toNat := by
  rw [backoff, toDuration_atMost, toDuration_scale, toNat_factor, toNat_doublings]
  rfl

end WordDuration

/-! ## Settings -/

/-- Milliseconds that fit a word are never cut. -/
theorem Duration.nanos_ofMillis {n : Nat} (h : n < UInt64.size) :
    (ofMillis n).nanos = n * nanosPerMilli := by
  change min (n * nanosPerMilli) maxNanos = _
  apply Nat.min_eq_left
  unfold maxNanos nanosPerMilli
  omega

theorem RetrySettings.check_eq_ok_iff {settings : RetrySettings} :
    settings.check = .ok () ↔
      settings.maxAttempts ≠ 0 ∧ settings.baseDelayMillis ≤ settings.maxDelayMillis := by
  unfold check
  split
  · next hnone => simp [hnone]
  · next hsome =>
    split
    · next hlonger => simp [Nat.not_le.mpr hlonger]
    · next hwithin => simp [hsome, Nat.not_lt.mp hwithin]

theorem RetrySettings.backoff_one {settings : RetrySettings} (h : settings.check = .ok ()) :
    settings.policy.backoff 1 = settings.policy.baseDelay := by
  apply RetryPolicy.backoff_one
  have hmillis := Nat.mul_le_mul_right nanosPerMilli (check_eq_ok_iff.mp h).2
  change min (settings.baseDelayMillis * nanosPerMilli) Duration.maxNanos ≤
    min (settings.maxDelayMillis * nanosPerMilli) Duration.maxNanos
  omega

/-! ## The pauses of a policy -/

/-- The pauses of a policy in natural numbers: they double up to the limit and never get shorter. -/
structure RetryPolicy.Doubles (policy : RetryPolicy) : Prop where
  exact : ∀ attempt, (policy.backoff attempt).nanos =
    min policy.maxDelay.nanos (policy.baseDelay.nanos * 2 ^ min (max attempt 1 - 1) 16)
  monotone : Monotone fun attempt ↦ (policy.backoff attempt).nanos
  limited : ∀ attempt, (policy.backoff attempt).nanos ≤ policy.maxDelay.nanos

theorem RetryPolicy.doubles (policy : RetryPolicy) : policy.Doubles where
  exact attempt := by
    have hearlier : max attempt 1 - 1 = attempt - 1 := by omega
    rw [hearlier]
    exact policy.nanos_backoff attempt
  monotone _ _ h := policy.backoff_mono h
  limited := policy.backoff_le

/-- The third pause would be longer than the limit. -/
example : [1, 2, 3].map (RetryPolicy.of 5 (.ofMillis 100) (.ofMillis 350)).backoff =
    [.ofMillis 100, .ofMillis 200, .ofMillis 350] := by
  decide

/-- The pause after an attempt is computed in words as it is in natural numbers, by a shift that
stays inside the word. -/
structure WordDuration.IsExact (base limit : WordDuration) (attempt : UInt32) : Prop where
  doublings_lt : (doublings attempt).toNat < 32
  factor_eq : (factor attempt).toNat = 2 ^ (doublings attempt).toNat
  backoff_eq : ∀ maxAttempts, (backoff base limit attempt).toDuration =
    RetryPolicy.backoff ⟨maxAttempts, base.toDuration, limit.toDuration⟩ attempt.toNat

/-- **Pauses double up to a limit.**  Under every policy the pause after an attempt is the base
delay doubled for each attempt before it, at most sixteen times, and cut to the limit, exactly as in
natural numbers.  It is never shorter than an earlier one.  Words give the same pause for every
attempt, and settings that pass their check begin with the base delay, which is as long as they
say. -/
theorem backoff_doubles_exactly :
    (∀ policy : RetryPolicy, policy.Doubles) ∧
    (∀ (base limit : WordDuration) (attempt : UInt32), WordDuration.IsExact base limit attempt) ∧
    ∀ settings : RetrySettings, settings.check = .ok () →
      settings.policy.backoff 1 = settings.policy.baseDelay ∧
        (settings.baseDelayMillis < UInt64.size →
          settings.policy.baseDelay.nanos = settings.baseDelayMillis * nanosPerMilli) := by
  refine ⟨RetryPolicy.doubles, fun base limit attempt ↦ ?_, fun settings hchecked ↦ ?_⟩
  · have hfew : (WordDuration.doublings attempt).toNat < 32 := by
      rw [WordDuration.toNat_doublings]
      omega
    exact ⟨hfew, WordDuration.toNat_factor attempt,
      WordDuration.toDuration_backoff base limit attempt⟩
  · exact ⟨RetrySettings.backoff_one hchecked, Duration.nanos_ofMillis⟩

/-- Five attempts, with pauses that begin with a tenth of a second. -/
def fiveAttempts : RetrySettings :=
  ⟨5, 100, 350⟩

theorem backoff_doubles_exactly_five :
    fiveAttempts.check = .ok () ∧
      fiveAttempts.policy.backoff 1 = fiveAttempts.policy.baseDelay ∧
      fiveAttempts.policy.baseDelay.nanos = 100 * nanosPerMilli := by
  have hchecked : fiveAttempts.check = .ok () := rfl
  obtain ⟨hfirst, hexact⟩ := backoff_doubles_exactly.2.2 fiveAttempts hchecked
  exact ⟨hchecked, hfirst, hexact (by decide)⟩

end MobileMoney
