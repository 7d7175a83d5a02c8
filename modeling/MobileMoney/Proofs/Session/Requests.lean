import MobileMoney.Proofs.Session.Initiation

/-!
# Requests of a call

`SendsOnly` says of a call that every request it sends is an allowed one, whatever the outcome.  A
check before a request restricts what has to be looked at to the values that pass it.
-/

namespace MobileMoney.Call

variable {α β : Type} {allowed : Request → Prop}

def SendsOnly (call : Call α) (allowed : Request → Prop) : Prop :=
  call.Sends fun sent _ ↦ ∀ e ∈ sent, allowed e.request

theorem SendsOnly.mono {weaker : Request → Prop} {call : Call α} (hcall : call.SendsOnly allowed)
    (h : ∀ request, allowed request → weaker request) : call.SendsOnly weaker :=
  Sends.mono hcall fun _ _ hsent e he ↦ h _ (hsent e he)

theorem IsSilent.sendsOnly {call : Call α} (h : call.IsSilent) : call.SendsOnly allowed := by
  apply h.mono
  rintro _ _ rfl
  exact List.forall_mem_nil _

theorem SendsOnly.bind {call : Call α} {next : α → Call β} (hcall : call.SendsOnly allowed)
    (hnext : ∀ value, (next value).SendsOnly allowed) : (call >>= next).SendsOnly allowed := by
  refine Sends.bind hcall (fun sent value hsent ↦ ?_) (fun _ _ h ↦ h) (fun _ h ↦ h)
  apply Sends.mono (hnext value)
  intro rest outcome hrest
  exact List.forall_mem_append.mpr ⟨hsent, hrest⟩

/-- A check, and what follows the values that pass it. -/
theorem sendsOnly_ofExcept_bind {result : Except PaymentError α} {next : α → Call β}
    (hnext : ∀ value, result = .ok value → (next value).SendsOnly allowed) :
    (ofExcept result >>= next).SendsOnly allowed := by
  cases result with
  | ok value => exact hnext value rfl
  | error error => exact fun _ _ ↦ ⟨[], (List.append_nil _).symm, List.forall_mem_nil _⟩

theorem sendsOnly_submit {call : Call Reply} {provider : Provider} {request : Request}
    (hcall : call.Sends (Submits provider request)) (h : allowed request) :
    call.SendsOnly allowed := by
  apply hcall.mono
  intro sent outcome hsent e he
  rw [hsent.onlyAsks.same e he]
  exact h

theorem accessToken_sendsOnly (policy : RetryPolicy) (key : TokenKey) {request : Request}
    (h : allowed request) : (accessToken policy key request).SendsOnly allowed := by
  apply (accessToken_sends policy key request).mono
  intro sent outcome hsent e he
  rw [hsent.same e he]
  exact h

/-- A request that needs a token, after the exchange that gives one. -/
theorem sendAuthorized_sendsOnly (key : TokenKey) {request : Request} (h : allowed request) :
    (sendAuthorized key request).SendsOnly allowed :=
  sendsOnly_submit (sendAuthorized_sends key request) h

/-- The attempts of a repeated call send what one attempt does. -/
theorem SendsOnly.retried {call : Call α} (hcall : call.SendsOnly allowed) (policy : RetryPolicy) :
    (retried policy call).SendsOnly allowed := by
  apply (retried_sends policy hcall).mono
  intro sent outcome hsent
  generalize policy.maxAttempts - 1 = spare at hsent
  induction hsent with
  | last hattempt => exact hattempt
  | again hattempt _ _ ih => exact List.forall_mem_append.mpr ⟨hattempt, ih⟩

theorem SendsOnly.forall_mem_requests {call : Call α} (hcall : call.SendsOnly allowed)
    {session : Session} (hsession : ∀ request ∈ session.requests, allowed request)
    (world : World) : ∀ request ∈ (call world session).2.requests, allowed request := by
  obtain ⟨sent, hlog, hsent⟩ := hcall world session
  rw [Session.requests, hlog, List.map_append]
  refine List.forall_mem_append.mpr ⟨hsession, ?_⟩
  rwa [List.forall_mem_map]

end MobileMoney.Call
