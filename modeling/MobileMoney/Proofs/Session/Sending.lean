import MobileMoney.Token.Grant

/-!
# What a call sends

`Call.Sends` is the contract of a call: whatever the outside does and whatever has been done before,
the log grows by exchanges that fit the outcome.  The rules follow the way in which calls are put
together.  Of a repeated call they keep the exchanges of every attempt, and of a request for a token
they say that it sends nothing but its exchange request, as often as the policy has attempts.
-/

namespace MobileMoney.Call

variable {α β : Type} {world : World} {session session' : Session}

/-! ## Runs of a chain -/

theorem bind_done {call : Call α} {value : α} (h : call world session = (.done value, session'))
    (next : α → Call β) : (call >>= next) world session = next value world session' := by
  simp only [bind, h]

theorem bind_failed {call : Call α} {error : PaymentError}
    (h : call world session = (.failed error, session')) (next : α → Call β) :
    (call >>= next) world session = (.failed error, session') := by
  simp only [bind, h]

theorem bind_aborted {call : Call α} (h : call world session = (.aborted, session'))
    (next : α → Call β) : (call >>= next) world session = (.aborted, session') := by
  simp only [bind, h]

theorem tryCatch_failed {call : Call α} {error : PaymentError}
    (h : call world session = (.failed error, session')) (handle : PaymentError → Call α) :
    tryCatch call handle world session = handle error world session' := by
  simp only [tryCatch, tryCatchThe, MonadExceptOf.tryCatch, h]

theorem tryCatch_of_not_failed {call : Call α}
    (h : ∀ error, (call world session).1 ≠ .failed error) (handle : PaymentError → Call α) :
    tryCatch call handle world session = call world session := by
  simp only [tryCatch, tryCatchThe, MonadExceptOf.tryCatch]
  split
  · next hfailed => exact absurd (congrArg Prod.fst hfailed) (h _)
  · rfl

/-! ## Contracts -/

/-- What a call adds to the log, together with its outcome. -/
def Sends (call : Call α) (post : List Exchange → Outcome α → Prop) : Prop :=
  ∀ world session, ∃ sent, (call world session).2.log = session.log ++ sent ∧
    post sent (call world session).1

/-- A call that sends nothing. -/
def IsSilent (call : Call α) : Prop :=
  call.Sends fun sent _ ↦ sent = []

theorem Sends.mono {call : Call α} {post weaker : List Exchange → Outcome α → Prop}
    (hcall : call.Sends post) (h : ∀ sent outcome, post sent outcome → weaker sent outcome) :
    call.Sends weaker := by
  intro world session
  obtain ⟨sent, hlog, hpost⟩ := hcall world session
  exact ⟨sent, hlog, h _ _ hpost⟩

theorem Sends.bind {call : Call α} {next : α → Call β} {first : List Exchange → Outcome α → Prop}
    {post : List Exchange → Outcome β → Prop} (hcall : call.Sends first)
    (hdone : ∀ sent value, first sent (.done value) →
      (next value).Sends fun rest outcome ↦ post (sent ++ rest) outcome)
    (hfailed : ∀ sent error, first sent (.failed error) → post sent (.failed error))
    (haborted : ∀ sent, first sent .aborted → post sent .aborted) :
    (call >>= next).Sends post := by
  intro world session
  obtain ⟨sent, hlog, hfirst⟩ := hcall world session
  generalize hrun : call world session = run at hlog hfirst
  obtain ⟨outcome, session'⟩ := run
  cases outcome with
  | done value =>
    rw [bind_done hrun]
    obtain ⟨rest, hrest, hpost⟩ := hdone sent value hfirst world session'
    exact ⟨sent ++ rest, by rw [hrest, hlog, List.append_assoc], hpost⟩
  | failed error =>
    rw [bind_failed hrun]
    exact ⟨sent, hlog, hfailed sent error hfirst⟩
  | aborted =>
    rw [bind_aborted hrun]
    exact ⟨sent, hlog, haborted sent hfirst⟩

theorem IsSilent.bind_sends {call : Call α} {next : α → Call β}
    {post : List Exchange → Outcome β → Prop} (hcall : call.IsSilent)
    (hnext : ∀ value, (next value).Sends post) (hfailed : ∀ error, post [] (.failed error))
    (haborted : post [] .aborted) : (call >>= next).Sends post := by
  apply Sends.bind hcall
  · intro sent value hsent
    subst hsent
    exact hnext value
  · intro sent error hsent
    subst hsent
    exact hfailed error
  · intro sent hsent
    subst hsent
    exact haborted

theorem Sends.bind_silent {call : Call α} {next : α → Call β} {post : List Exchange → Prop}
    (hcall : call.Sends fun sent _ ↦ post sent) (hnext : ∀ value, (next value).IsSilent) :
    (call >>= next).Sends fun sent _ ↦ post sent := by
  refine Sends.bind hcall (fun sent value hsent ↦ ?_) (fun _ _ ↦ id) (fun _ ↦ id)
  apply (hnext value).mono
  intro rest outcome hrest
  rw [hrest, List.append_nil]
  exact hsent

/-- A step that hands its value on. -/
theorem Sends.bind_same {call : Call α} {next : α → Call α}
    {post : List Exchange → Outcome α → Prop} (hcall : call.Sends post)
    (hnext : ∀ value world session, ∃ session', next value world session =
      (.done value, session') ∧ session'.log = session.log) : (call >>= next).Sends post := by
  refine Sends.bind hcall (fun sent value hsent world session ↦ ?_) (fun _ _ ↦ id) (fun _ ↦ id)
  obtain ⟨session', hrun, hlog⟩ := hnext value world session
  rw [← List.append_nil sent] at hsent
  rw [hrun]
  exact ⟨[], by rw [hlog, List.append_nil], hsent⟩

theorem IsSilent.bind {call : Call α} {next : α → Call β} (hcall : call.IsSilent)
    (hnext : ∀ value, (next value).IsSilent) : (call >>= next).IsSilent :=
  hcall.bind_sends hnext (fun _ ↦ rfl) rfl

/-! ## Calls that send nothing -/

theorem isSilent_of_log {call : Call α}
    (h : ∀ world session, (call world session).2.log = session.log) : call.IsSilent :=
  fun world session ↦ ⟨[], by rw [h, List.append_nil], rfl⟩

theorem isSilent_pure (value : α) : (pure value : Call α).IsSilent :=
  isSilent_of_log fun _ _ ↦ rfl

theorem isSilent_ofExcept (result : Except PaymentError α) : (ofExcept result).IsSilent := by
  cases result <;> exact isSilent_of_log fun _ _ ↦ rfl

theorem isSilent_ofCalendar (value : Option α) : (ofCalendar value).IsSilent := by
  cases value <;> exact isSilent_of_log fun _ _ ↦ rfl

theorem isSilent_readClock : readClock.IsSilent :=
  isSilent_of_log fun _ _ ↦ rfl

theorem isSilent_drawIdentifier : drawIdentifier.IsSilent :=
  isSilent_of_log fun _ _ ↦ rfl

theorem isSilent_tokens : tokens.IsSilent :=
  isSilent_of_log fun _ _ ↦ rfl

theorem isSilent_updateTokens (f : TokenCache → TokenCache) : (updateTokens f).IsSilent :=
  isSilent_of_log fun _ _ ↦ rfl

/-- A looked up token costs a reading of the clock at most. -/
theorem isSilent_usableToken? (key : TokenKey) : (usableToken? key).IsSilent := by
  refine isSilent_tokens.bind fun cache ↦ ?_
  split
  · exact isSilent_pure none
  · exact isSilent_readClock.bind fun now ↦ isSilent_ofCalendar _

/-! ## Single requests -/

/-- What becomes of one request: it cannot be written, or it is delivered somehow. -/
inductive Submits (provider : Provider) (request : Request) :
    List Exchange → Outcome Reply → Prop
  | withheld (error : PaymentError) : Submits provider request [] (.failed error)
  | delivered (delivery : Delivery) :
      Submits provider request [⟨request, delivery⟩] (reply provider delivery)

theorem send_sends (provider : Provider) (request : Request) :
    (send provider request).Sends (Submits provider request) := by
  intro world session
  by_cases hsendable : request.isSendable
  · have hrun : send provider request world session =
        (reply provider (world.deliver (session.requests ++ [request])),
          { session with log := session.log ++
            [⟨request, world.deliver (session.requests ++ [request])⟩] }) := by
      unfold send
      rw [if_pos hsendable]
    rw [hrun]
    exact ⟨_, rfl, .delivered _⟩
  · have hrun : send provider request world session =
        (.failed (requestFailed provider "request cannot be written"), session) := by
      unfold send
      rw [if_neg hsendable]
    rw [hrun]
    exact ⟨[], (List.append_nil _).symm, .withheld _⟩

/-- A reply 401 changes the tokens, and nothing that has been sent. -/
theorem sendAuthorized_sends (key : TokenKey) (request : Request) :
    (sendAuthorized key request).Sends (Submits key.provider request) := by
  apply (send_sends key.provider request).bind_same
  intro reply world session
  by_cases hstatus : reply.status = 401
  · simp only [hstatus, if_true]
    exact ⟨_, rfl, rfl⟩
  · simp only [hstatus, if_false]
    exact ⟨_, rfl, rfl⟩

/-! ## Repetition -/

/-- The attempts of a repeated call: each but the last has failed in a way that allows another. -/
inductive Repeated (once : List Exchange → Outcome α → Prop) :
    Nat → List Exchange → Outcome α → Prop
  | last {spare : Nat} {sent : List Exchange} {outcome : Outcome α} (attempt : once sent outcome) :
      Repeated once spare sent outcome
  | again {spare : Nat} {sent rest : List Exchange} {error : PaymentError} {outcome : Outcome α}
      (attempt : once sent (.failed error)) (retryable : error.isRetryable = true)
      (others : Repeated once spare rest outcome) : Repeated once (spare + 1) (sent ++ rest) outcome

/-- A failure that allows another attempt is followed by one. -/
theorem attemptFrom_again {call : Call α} {error : PaymentError}
    (hfailed : (call world session).1 = .failed error) (hretryable : error.isRetryable = true)
    (policy : RetryPolicy) (spare attempt : Nat) :
    attemptFrom policy (fun _ ↦ pure ()) call (spare + 1) attempt world session =
      attemptFrom policy (fun _ ↦ pure ()) call spare (attempt + 1) world
        (call world session).2 := by
  have hrun : call world session = (.failed error, (call world session).2) := by rw [← hfailed]
  rw [attemptFrom, tryCatch_failed hrun, if_pos hretryable]
  rfl

/-- Any other outcome is the last one. -/
theorem attemptFrom_last {call : Call α}
    (h : ¬ ∃ error, (call world session).1 = .failed error ∧ error.isRetryable = true)
    (policy : RetryPolicy) (spare attempt : Nat) :
    attemptFrom policy (fun _ ↦ pure ()) call (spare + 1) attempt world session =
      call world session := by
  generalize hrun : call world session = run at h
  obtain ⟨outcome, session'⟩ := run
  cases outcome with
  | failed error =>
    have hfinal : ¬ error.isRetryable = true := fun hretryable ↦ h ⟨error, rfl, hretryable⟩
    rw [attemptFrom, tryCatch_failed hrun, if_neg hfinal]
    rfl
  | done value => rw [attemptFrom, tryCatch_of_not_failed (by simp [hrun]), hrun]
  | aborted => rw [attemptFrom, tryCatch_of_not_failed (by simp [hrun]), hrun]

theorem attemptFrom_sends (policy : RetryPolicy) {call : Call α}
    {once : List Exchange → Outcome α → Prop} (hcall : call.Sends once) (spare attempt : Nat) :
    (attemptFrom policy (fun _ ↦ pure ()) call spare attempt).Sends (Repeated once spare) := by
  -- The number of the attempt only sets the pause, which sends nothing.
  induction spare generalizing attempt with
  | zero => exact hcall.mono fun _ _ ↦ .last
  | succ spare ih =>
    intro world session
    obtain ⟨sent, hlog, honce⟩ := hcall world session
    unfold attemptFrom
    generalize hrun : call world session = run at hlog honce
    obtain ⟨outcome, session'⟩ := run
    cases outcome with
    | failed error =>
      rw [tryCatch_failed hrun]
      by_cases hretryable : error.isRetryable
      · rw [if_pos hretryable]
        obtain ⟨rest, hrest, hothers⟩ := ih (attempt + 1) world session'
        refine ⟨sent ++ rest, ?_, .again honce hretryable hothers⟩
        rw [← List.append_assoc, ← hlog]
        exact hrest
      · rw [if_neg hretryable]
        exact ⟨sent, hlog, .last honce⟩
    | done value =>
      rw [tryCatch_of_not_failed (by simp [hrun]), hrun]
      exact ⟨sent, hlog, .last honce⟩
    | aborted =>
      rw [tryCatch_of_not_failed (by simp [hrun]), hrun]
      exact ⟨sent, hlog, .last honce⟩

theorem retried_sends (policy : RetryPolicy) {call : Call α}
    {once : List Exchange → Outcome α → Prop} (hcall : call.Sends once) :
    (retried policy call).Sends (Repeated once (policy.maxAttempts - 1)) :=
  attemptFrom_sends policy hcall _ 1

/-! ## Tokens -/

/-- The exchanges are all of one request, and there are not too many of them. -/
structure OnlyAsks (request : Request) (most : Nat) (sent : List Exchange) : Prop where
  same : ∀ e ∈ sent, e.request = request
  few : sent.length ≤ most

theorem OnlyAsks.append {request : Request} {m n : Nat} {sent rest : List Exchange}
    (hsent : OnlyAsks request m sent) (hrest : OnlyAsks request n rest) :
    OnlyAsks request (m + n) (sent ++ rest) where
  same e he := (List.mem_append.mp he).elim (hsent.same e) (hrest.same e)
  few := by
    have hm := hsent.few
    have hn := hrest.few
    rw [List.length_append]
    omega

theorem Submits.onlyAsks {provider : Provider} {request : Request} {sent : List Exchange}
    {outcome : Outcome Reply} (h : Submits provider request sent outcome) :
    OnlyAsks request 1 sent := by
  cases h with
  | withheld _ => exact ⟨by simp, by simp⟩
  | delivered _ => exact ⟨by simp, by simp⟩

theorem Repeated.onlyAsks {request : Request} {spare : Nat} {sent : List Exchange}
    {outcome : Outcome α} (h : Repeated (fun sent _ ↦ OnlyAsks request 1 sent) spare sent outcome) :
    OnlyAsks request (spare + 1) sent := by
  induction h with
  | last attempt => exact ⟨attempt.same, Nat.le_trans attempt.few (Nat.le_add_left 1 _)⟩
  | again attempt _ _ ih =>
    rw [Nat.add_comm]
    exact attempt.append ih

theorem exchange_sends (provider : Provider) (request : Request) :
    (exchange provider request).Sends fun sent _ ↦ OnlyAsks request 1 sent := by
  refine ((send_sends provider request).mono fun _ _ ↦ Submits.onlyAsks).bind_silent fun reply ↦ ?_
  refine (isSilent_ofExcept _).bind fun grant ↦ ?_
  exact isSilent_readClock.bind fun now ↦ isSilent_ofCalendar _

theorem bearerToken_sends (key : TokenKey) {request : Request} {exchange : Call Credential}
    (hexchange : exchange.Sends fun sent _ ↦ OnlyAsks request 1 sent) :
    (bearerToken key exchange).Sends fun sent _ ↦ OnlyAsks request 1 sent := by
  have hnothing : OnlyAsks request 1 [] := ⟨by simp, by simp⟩
  refine (isSilent_usableToken? key).bind_sends (fun kept ↦ ?_) (fun _ ↦ hnothing) hnothing
  cases kept with
  | some token =>
    apply (isSilent_pure token).mono
    intro sent outcome hsent
    rw [hsent]
    exact hnothing
  | none =>
    refine hexchange.bind_silent fun credential ↦ ?_
    exact (isSilent_updateTokens _).bind fun _ ↦ isSilent_pure _

/-- A request for a token sends its exchange request only, once for each attempt of the policy. -/
theorem accessToken_sends (policy : RetryPolicy) (key : TokenKey) (request : Request) :
    (accessToken policy key request).Sends fun sent _ ↦
      OnlyAsks request (max 1 policy.maxAttempts) sent := by
  have hattempt := bearerToken_sends key (exchange_sends key.provider request)
  refine (retried_sends policy hattempt).mono fun sent _ hsent ↦ ?_
  have hbound : policy.maxAttempts - 1 + 1 = max 1 policy.maxAttempts := by omega
  exact hbound ▸ hsent.onlyAsks

end MobileMoney.Call
