import MobileMoney.Proofs.Session.Sending

/-!
# Invariants of sessions

A call keeps an invariant when every session with the invariant is left with it, whatever the
outcome.  The rules follow the way in which calls are put together.
-/

namespace MobileMoney.Call

variable {α β : Type} {world : World} {invariant : Session → Prop}

/-- What a call that starts with the invariant leaves behind: its outcome, and the session in which
it ends. -/
def Leaves (world : World) (invariant : Session → Prop) (call : Call α)
    (post : Outcome α → Session → Prop) : Prop :=
  ∀ session, invariant session → post (call world session).1 (call world session).2

def Keeps (world : World) (invariant : Session → Prop) (call : Call α) : Prop :=
  call.Leaves world invariant fun _ session ↦ invariant session

/-- Of a chain only what follows a value has to be looked at. -/
theorem keeps_bind_at {call : Call α} {next : α → Call β} {session : Session}
    (hcall : invariant (call world session).2)
    (hnext : ∀ value, (call world session).1 = .done value →
      invariant (next value world (call world session).2).2) :
    invariant ((call >>= next) world session).2 := by
  generalize hrun : call world session = run at hcall hnext
  obtain ⟨outcome, session'⟩ := run
  cases outcome with
  | done value =>
    rw [bind_done hrun]
    exact hnext value rfl
  | failed error =>
    rw [bind_failed hrun]
    exact hcall
  | aborted =>
    rw [bind_aborted hrun]
    exact hcall

/-- What a call leaves behind is there when the rest begins. -/
theorem Leaves.bind {call : Call α} {next : α → Call β} {post : Outcome α → Session → Prop}
    (hcall : call.Leaves world invariant post)
    (hkept : ∀ outcome session, post outcome session → invariant session)
    (hnext : ∀ value session, post (.done value) session →
      invariant (next value world session).2) : (call >>= next).Keeps world invariant := by
  intro session hsession
  have hleft := hcall session hsession
  apply keeps_bind_at (hkept _ _ hleft)
  intro value hdone
  rw [hdone] at hleft
  exact hnext value _ hleft

theorem Keeps.bind {call : Call α} {next : α → Call β} (hcall : call.Keeps world invariant)
    (hnext : ∀ value, (next value).Keeps world invariant) :
    (call >>= next).Keeps world invariant :=
  Leaves.bind hcall (fun _ _ h ↦ h) hnext

theorem keeps_of_eq {call : Call α} (h : ∀ session, (call world session).2 = session) :
    call.Keeps world invariant := by
  intro session hsession
  rw [h]
  exact hsession

theorem keeps_throw (error : PaymentError) : (throw error : Call α).Keeps world invariant :=
  keeps_of_eq fun _ ↦ rfl

theorem keeps_ofExcept (result : Except PaymentError α) :
    (ofExcept result).Keeps world invariant := by
  cases result <;> exact keeps_of_eq fun _ ↦ rfl

/-! ## Repetition -/

section

variable {call : Call α} {post : Outcome α → Session → Prop}

/-- The next attempt begins where a failed one ended, and what the last one leaves is left. -/
theorem Leaves.attemptFrom (hcall : call.Leaves world invariant post)
    (hkept : ∀ outcome session, post outcome session → invariant session) (policy : RetryPolicy)
    (spare attempt : Nat) :
    (attemptFrom policy (fun _ ↦ pure ()) call spare attempt).Leaves world invariant post := by
  induction spare generalizing attempt with
  | zero => exact hcall
  | succ spare ih =>
    intro session hsession
    have hleft := hcall session hsession
    unfold MobileMoney.attemptFrom
    generalize hrun : call world session = run at hleft
    obtain ⟨outcome, session'⟩ := run
    cases outcome with
    | failed error =>
      rw [tryCatch_failed hrun]
      by_cases hretryable : error.isRetryable
      · rw [if_pos hretryable]
        exact ih (attempt + 1) session' (hkept _ _ hleft)
      · rw [if_neg hretryable]
        exact hleft
    | done value =>
      rw [tryCatch_of_not_failed (by simp [hrun]), hrun]
      exact hleft
    | aborted =>
      rw [tryCatch_of_not_failed (by simp [hrun]), hrun]
      exact hleft

theorem Leaves.retried (hcall : call.Leaves world invariant post)
    (hkept : ∀ outcome session, post outcome session → invariant session) (policy : RetryPolicy) :
    (retried policy call).Leaves world invariant post :=
  hcall.attemptFrom hkept policy _ 1

theorem keeps_retried (hcall : call.Keeps world invariant) (policy : RetryPolicy) :
    (retried policy call).Keeps world invariant :=
  Leaves.retried hcall (fun _ _ h ↦ h) policy

end

end MobileMoney.Call
