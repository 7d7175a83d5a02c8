import Mathlib.Algebra.BigOperators.Group.Finset.Basic
import Mathlib.Order.Bounds.Basic
import MobileMoney.Retry

/-!
# Repetition on a clock

A repeated call is made until its outcome is final or the budget is used up.  On a clock this fixes
everything: how many calls there are, when each of them starts, what the repetition results in, and
that it ends with its last call.  A loop that counts its attempts in 32 bits does the same, since
its counter is increased only below the budget.
-/

namespace MobileMoney

/-- An outcome after which nothing is repeated. -/
def IsFinal {α : Type} (outcome : Except PaymentError α) : Prop :=
  ∀ error, outcome = .error error → error.isRetryable = false

section

variable {m : Type → Type} [Monad m] [MonadExceptOf PaymentError m] {α : Type}

/-- Repetition as a loop with a counter of 32 bits.  The counter would overflow where its next value
does not fit. -/
def countedFrom (overflow : m α) (policy : RetryPolicy) (pause : Duration → m Unit) (call : m α)
    (attempt : Nat) : m α :=
  tryCatch call fun error ↦
    if error.isRetryable = true ∧ attempt < max 1 policy.maxAttempts then do
      pause (policy.backoff attempt)
      if attempt + 1 < UInt32.size then countedFrom overflow policy pause call (attempt + 1)
      else overflow
    else throw error
termination_by max 1 policy.maxAttempts - attempt

end

namespace Retry

variable {α : Type}

/-- The time of a call after the given number of others. -/
def startTime (timer : Timer) (policy : RetryPolicy) (earlier : Nat) : Nat :=
  ∑ i ∈ Finset.range earlier, (timer (policy.backoff (i + 1))).nanos

namespace Timeline

/-- A call starts now. -/
def called (line : Timeline) : Timeline :=
  { line with starts := line.starts.push line.clock }

def paused (line : Timeline) (d : Duration) : Timeline :=
  { line with clock := line.clock + d.nanos }

/-- The given number of calls, each of them followed by its pause. -/
def after (timer : Timer) (policy : RetryPolicy) (count : Nat) : Timeline :=
  ⟨Array.ofFn fun k : Fin count ↦ startTime timer policy k, startTime timer policy count⟩

variable (timer : Timer) (policy : RetryPolicy)

theorem size_after (count : Nat) : (after timer policy count).starts.size = count :=
  Array.size_ofFn

theorem called_after (count : Nat) :
    (after timer policy count).called =
      ⟨Array.ofFn fun k : Fin (count + 1) ↦ startTime timer policy k,
        startTime timer policy count⟩ := by
  rw [called, after, Array.ofFn_succ]
  rfl

theorem paused_called_after (count : Nat) :
    (after timer policy count).called.paused (timer (policy.backoff (count + 1))) =
      after timer policy (count + 1) := by
  rw [called_after, paused, after, startTime, startTime, Finset.sum_range_succ]

end Timeline

/-! ## Steps -/

section

variable {timer : Timer} {policy : RetryPolicy} {outcomes : Nat → Except PaymentError α}
  {line line' : Timeline}

theorem modifyGet_bind_run {β : Type} (change : Timeline → β × Timeline)
    (next : β → Simulation α) :
    (modifyGet change >>= next).run.run line =
      (next (change line).1).run.run (change line).2 := rfl

theorem sleep_bind_run (d : Duration) (next : Unit → Simulation α) :
    (sleep timer d >>= next).run.run line = (next ()).run.run (line.paused (timer d)) := rfl

theorem tryCatch_run_of_ok {call : Simulation α} {value : α}
    (h : call.run.run line = (.ok value, line')) (handle : PaymentError → Simulation α) :
    (tryCatch call handle).run.run line = (.ok value, line') := by
  change (ExceptT.tryCatch call handle).run.run line = _
  rw [ExceptT.tryCatch]
  change StateT.run (call.run >>= _) line = _
  rw [StateT.run_bind, h]
  rfl

theorem tryCatch_run_of_error {call : Simulation α} {error : PaymentError}
    (h : call.run.run line = (.error error, line')) (handle : PaymentError → Simulation α) :
    (tryCatch call handle).run.run line = (handle error).run.run line' := by
  change (ExceptT.tryCatch call handle).run.run line = _
  rw [ExceptT.tryCatch]
  change StateT.run (call.run >>= _) line = _
  rw [StateT.run_bind, h]
  rfl

/-- Which call is next depends on the number of calls before it. -/
theorem nextCall_run :
    (nextCall outcomes).run.run line = (outcomes line.starts.size, line.called) := by
  rw [nextCall, modifyGet_bind_run]
  cases outcomes line.starts.size with
  | ok value => rfl
  | error error => rfl

/-- A handler that hands the error on leaves the outcome of the call. -/
theorem tryCatch_nextCall_of_throw {handle : PaymentError → Simulation α}
    (h : ∀ error, outcomes line.starts.size = .error error → handle error = throw error) :
    (tryCatch (nextCall outcomes) handle).run.run line =
      (outcomes line.starts.size, line.called) := by
  have hcall : (nextCall outcomes).run.run line = (outcomes line.starts.size, line.called) :=
    nextCall_run
  cases houtcome : outcomes line.starts.size with
  | ok value =>
    rw [houtcome] at hcall
    exact tryCatch_run_of_ok hcall handle
  | error error =>
    rw [houtcome] at hcall
    rw [tryCatch_run_of_error hcall, h error houtcome]
    rfl

theorem tryCatch_nextCall_of_error {error : PaymentError}
    (h : outcomes line.starts.size = .error error) (handle : PaymentError → Simulation α) :
    (tryCatch (nextCall outcomes) handle).run.run line = (handle error).run.run line.called := by
  apply tryCatch_run_of_error
  rw [nextCall_run, h]

theorem exists_retryable_of_not_isFinal {outcome : Except PaymentError α}
    (h : ¬ IsFinal outcome) : ∃ error, outcome = .error error ∧ error.isRetryable = true := by
  simpa [IsFinal] using h

end

/-! ## Runs -/

section

variable (timer : Timer) (policy : RetryPolicy) (outcomes : Nat → Except PaymentError α)

/-- The given attempt, and up to `spare` more, on a clock. -/
def simulateFrom (spare attempt : Nat) (line : Timeline) : Except PaymentError α × Timeline :=
  (attemptFrom policy (sleep timer) (nextCall outcomes) spare attempt).run.run line

variable {timer policy outcomes} {line : Timeline}

/-- A final outcome ends the run, and so does the last attempt. -/
theorem simulateFrom_last {spare : Nat}
    (h : spare = 0 ∨ IsFinal (outcomes line.starts.size)) (attempt : Nat) :
    simulateFrom timer policy outcomes spare attempt line =
      (outcomes line.starts.size, line.called) := by
  cases spare with
  | zero => exact nextCall_run
  | succ spare =>
    have hfinal := h.resolve_left (Nat.succ_ne_zero spare)
    apply tryCatch_nextCall_of_throw
    intro error houtcome
    rw [hfinal error houtcome, if_neg Bool.false_ne_true]

/-- Any other outcome is followed by a pause and another attempt. -/
theorem simulateFrom_again (h : ¬ IsFinal (outcomes line.starts.size)) (spare attempt : Nat) :
    simulateFrom timer policy outcomes (spare + 1) attempt line =
      simulateFrom timer policy outcomes spare (attempt + 1)
        (line.called.paused (timer (policy.backoff attempt))) := by
  obtain ⟨error, houtcome, hretryable⟩ := exists_retryable_of_not_isFinal h
  rw [simulateFrom, attemptFrom, tryCatch_nextCall_of_error houtcome, if_pos hretryable,
    sleep_bind_run]
  rfl

variable (timer policy outcomes)

/-- After calls that have all been repeated, the run goes on to the next final outcome or to the
end of the budget. -/
theorem simulateFrom_after (spare earlier : Nat) :
    ∃ last, earlier ≤ last ∧ last ≤ earlier + spare ∧
      (∀ i, earlier ≤ i → i < last → ¬ IsFinal (outcomes i)) ∧
      (last = earlier + spare ∨ IsFinal (outcomes last)) ∧
      simulateFrom timer policy outcomes spare (earlier + 1) (.after timer policy earlier) =
        (outcomes last, (Timeline.after timer policy last).called) := by
  induction spare generalizing earlier with
  | zero =>
    refine ⟨earlier, Nat.le_refl _, Nat.le_refl _, fun i hi hlt ↦ by omega, .inl rfl, ?_⟩
    rw [simulateFrom_last (.inl rfl), Timeline.size_after]
  | succ spare ih =>
    by_cases hfinal : IsFinal (outcomes earlier)
    · refine ⟨earlier, Nat.le_refl _, by omega, fun i hi hlt ↦ by omega, .inr hfinal, ?_⟩
      rw [simulateFrom_last (.inr _), Timeline.size_after]
      rwa [Timeline.size_after]
    · obtain ⟨last, hle, hmost, hrepeated, hlast, hrun⟩ := ih (earlier + 1)
      refine ⟨last, by omega, by omega, fun i hi hlt ↦ ?_, ?_, ?_⟩
      · obtain rfl | hi := Nat.eq_or_lt_of_le hi
        · exact hfinal
        · exact hrepeated i hi hlt
      · obtain rfl | hlast := hlast
        · exact .inl (by omega)
        · exact .inr hlast
      · rw [simulateFrom_again (by rwa [Timeline.size_after]), Timeline.paused_called_after]
        exact hrun

/-- The last call is the first one that the budget or its outcome makes the last. -/
theorem exists_simulate_eq :
    ∃ last, IsLeast {n | n = max 1 policy.maxAttempts ∨
        ∃ earlier, n = earlier + 1 ∧ IsFinal (outcomes earlier)} (last + 1) ∧
      simulate timer policy outcomes =
        (outcomes last, (Timeline.after timer policy last).called) := by
  obtain ⟨last, -, hmost, hrepeated, hlast, hrun⟩ :=
    simulateFrom_after timer policy outcomes (policy.maxAttempts - 1) 0
  refine ⟨last, ⟨?_, ?_⟩, hrun⟩
  · obtain hlast | hfinal := hlast
    · exact .inl (by omega)
    · exact .inr ⟨last, rfl, hfinal⟩
  · rintro n (rfl | ⟨earlier, rfl, hfinal⟩)
    · omega
    · have hle : ¬ earlier < last := fun hlt ↦ hrepeated earlier (Nat.zero_le _) hlt hfinal
      omega

end

/-! ## The counter -/

section

variable (overflow : Simulation α) (timer : Timer) (policy : RetryPolicy)
  (outcomes : Nat → Except PaymentError α)

/-- The loop with a counter of 32 bits, on a clock. -/
def countFrom (attempt : Nat) (line : Timeline) : Except PaymentError α × Timeline :=
  (countedFrom overflow policy (sleep timer) (nextCall outcomes) attempt).run.run line

variable {overflow timer policy outcomes} {line : Timeline} {attempt : Nat}

theorem countFrom_last
    (h : max 1 policy.maxAttempts ≤ attempt ∨ IsFinal (outcomes line.starts.size)) :
    countFrom overflow timer policy outcomes attempt line =
      (outcomes line.starts.size, line.called) := by
  rw [countFrom, countedFrom]
  apply tryCatch_nextCall_of_throw
  intro error houtcome
  apply if_neg
  rintro ⟨hretryable, hleft⟩
  obtain hspent | hfinal := h
  · exact absurd hleft (Nat.not_lt.mpr hspent)
  · rw [hfinal error houtcome] at hretryable
    cases hretryable

/-- Below the budget there is room for another attempt in the counter. -/
theorem countFrom_again (hword : max 1 policy.maxAttempts < UInt32.size)
    (hleft : attempt < max 1 policy.maxAttempts) (h : ¬ IsFinal (outcomes line.starts.size)) :
    countFrom overflow timer policy outcomes attempt line =
      countFrom overflow timer policy outcomes (attempt + 1)
        (line.called.paused (timer (policy.backoff attempt))) := by
  obtain ⟨error, houtcome, hretryable⟩ := exists_retryable_of_not_isFinal h
  have hroom : attempt + 1 < UInt32.size := Nat.lt_of_le_of_lt hleft hword
  rw [countFrom, countedFrom, tryCatch_nextCall_of_error houtcome, if_pos ⟨hretryable, hleft⟩,
    sleep_bind_run, if_pos hroom]
  rfl

/-- The counter and the attempts that are left make up the budget. -/
theorem countFrom_eq_simulateFrom (hword : max 1 policy.maxAttempts < UInt32.size) {spare : Nat}
    (hbudget : attempt + spare = max 1 policy.maxAttempts) :
    countFrom overflow timer policy outcomes attempt line =
      simulateFrom timer policy outcomes spare attempt line := by
  induction spare generalizing attempt line with
  | zero => rw [countFrom_last (.inl (by omega)), simulateFrom_last (.inl rfl)]
  | succ spare ih =>
    by_cases hfinal : IsFinal (outcomes line.starts.size)
    · rw [countFrom_last (.inr hfinal), simulateFrom_last (.inr hfinal)]
    · rw [countFrom_again hword (by omega) hfinal, simulateFrom_again hfinal]
      exact ih (by omega)

end

/-! ## The contract -/

/-- A repetition under a policy, on a clock by which pauses take as long as they should and calls
take no time.  The number of calls is the least one at which the budget is used up or an outcome is
final. -/
structure IsRepetition (policy : RetryPolicy) (outcomes : Nat → Except PaymentError α)
    (result : Except PaymentError α) (line : Timeline) : Prop where
  calls : IsLeast {n | n = max 1 policy.maxAttempts ∨
    ∃ earlier, n = earlier + 1 ∧ IsFinal (outcomes earlier)} line.starts.size
  result_eq : result = outcomes (line.starts.size - 1)
  starts : ∀ k < line.starts.size,
    line.starts[k]? = some (∑ i ∈ Finset.range k, (policy.backoff (i + 1)).nanos)
  ends : line.starts[line.starts.size - 1]? = some line.clock

theorem isRepetition_called_after {policy : RetryPolicy}
    {outcomes : Nat → Except PaymentError α} {last : Nat}
    (h : IsLeast {n | n = max 1 policy.maxAttempts ∨
      ∃ earlier, n = earlier + 1 ∧ IsFinal (outcomes earlier)} (last + 1)) :
    IsRepetition policy outcomes (outcomes last) (Timeline.after .exact policy last).called := by
  rw [Timeline.called_after]
  constructor
  case calls => rwa [Array.size_ofFn]
  case result_eq => rw [Array.size_ofFn, Nat.add_sub_cancel]
  case starts =>
    intro k hk
    rw [Array.size_ofFn] at hk
    rw [Array.getElem?_ofFn, dif_pos hk]
    rfl
  case ends =>
    rw [Array.size_ofFn, Nat.add_sub_cancel, Array.getElem?_ofFn, dif_pos (Nat.lt_succ_self last)]

/-- **The contract of a repetition.**  Under every policy and for every sequence of outcomes the
calls are made, timed and answered as they should be.  As long as the policy fits 32 bits, so does
the counter of the attempts: what its overflow would do does not matter. -/
theorem simulate_isRepetition (policy : RetryPolicy) (outcomes : Nat → Except PaymentError α) :
    IsRepetition policy outcomes (simulate .exact policy outcomes).1
      (simulate .exact policy outcomes).2 ∧
    (policy.maxAttempts < UInt32.size → ∀ overflow : Simulation α,
      (countedFrom overflow policy (sleep .exact) (nextCall outcomes) 1).run.run ⟨#[], 0⟩ =
        simulate .exact policy outcomes) := by
  constructor
  · obtain ⟨last, hleast, hrun⟩ :=
      exists_simulate_eq .exact policy outcomes
    rw [hrun]
    exact isRepetition_called_after hleast
  · intro hword overflow
    have hbudget : 1 + (policy.maxAttempts - 1) = max 1 policy.maxAttempts := by omega
    have hroom : max 1 policy.maxAttempts < UInt32.size := max_lt (by decide) hword
    exact countFrom_eq_simulateFrom hroom hbudget

end Retry

end MobileMoney
