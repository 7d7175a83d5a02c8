import MobileMoney.Payment.Error
import MobileMoney.Time.Duration

/-!
# Retry

A call that fails with a retryable error is repeated until the budget of attempts is used up, with
growing pauses in between.  `withRetry` works in every monad that can throw payment errors;
`simulate` runs it over a sequence of outcomes and notes when each call starts, on a clock whose
timer says how long a pause takes.
-/

namespace MobileMoney

structure RetryPolicy where
  maxAttempts : Nat
  baseDelay : Duration
  maxDelay : Duration
deriving DecidableEq

namespace RetryPolicy

/-- A policy with at least one attempt. -/
def of (maxAttempts : Nat) (baseDelay maxDelay : Duration) : RetryPolicy :=
  ⟨max 1 maxAttempts, baseDelay, maxDelay⟩

def standard : RetryPolicy :=
  of 3 (.ofMillis 250) (.ofSeconds 4)

def single : RetryPolicy :=
  of 1 .zero .zero

/-- The pause doubles at most this often. -/
def maxDoublings : Nat := 16

/-- The pause after the given attempt, counted from one. -/
def backoff (policy : RetryPolicy) (attempt : Nat) : Duration :=
  (policy.baseDelay.scale (Nat.pow 2 (min (attempt - 1) maxDoublings))).atMost policy.maxDelay

end RetryPolicy

section

variable {m : Type → Type} [Monad m] [MonadExceptOf PaymentError m] {α : Type}

/-- Makes the given attempt, and up to `spare` more. -/
def attemptFrom (policy : RetryPolicy) (pause : Duration → m Unit) (call : m α) : Nat → Nat → m α
  | 0, _ => call
  | spare + 1, attempt =>
    tryCatch call fun error ↦
      if error.isRetryable then do
        pause (policy.backoff attempt)
        attemptFrom policy pause call spare (attempt + 1)
      else throw error

def withRetry (policy : RetryPolicy) (pause : Duration → m Unit) (call : m α) : m α :=
  attemptFrom policy pause call (policy.maxAttempts - 1) 1

end

/-- How long a pause of the asked length takes. -/
abbrev Timer := Duration → Duration

namespace Timer

def exact : Timer :=
  id

/-- Thirty years of 365 days. -/
def longestPause : Duration :=
  .ofSeconds (30 * 365 * 86400)

/-- A timer that cuts every pause to the longest one. -/
def bounded : Timer :=
  fun d ↦ d.atMost longestPause

end Timer

namespace Retry

/-- The start times of the calls so far and the present time, in nanoseconds. -/
structure Timeline where
  starts : Array Nat
  clock : Nat
deriving DecidableEq

abbrev Simulation := ExceptT PaymentError (StateM Timeline)

def sleep (timer : Timer) (d : Duration) : Simulation Unit :=
  modify fun line ↦ { line with clock := line.clock + (timer d).nanos }

/-- The next call: its outcome depends on how many calls came before. -/
def nextCall (outcomes : Nat → Except PaymentError α) : Simulation α := do
  let earlier ← modifyGet fun line ↦
    (line.starts.size, { line with starts := line.starts.push line.clock })
  match outcomes earlier with
  | .ok value => return value
  | .error error => throw error

/-- Calls that take no time and have the given outcomes, under a policy. -/
def simulate (timer : Timer) (policy : RetryPolicy) (outcomes : Nat → Except PaymentError α) :
    Except PaymentError α × Timeline :=
  (withRetry policy (sleep timer) (nextCall outcomes)).run.run ⟨#[], 0⟩

end Retry

end MobileMoney
