import MobileMoney.Proofs.Session.Sending

/-!
# Calls that look alike

From outside, a request is seen by its method and its address.  Two calls look alike when, from
sessions that have been seen in the same way, they come to the same outcome and are seen in the same
way again, whatever else is in their requests.  The rules follow the way in which calls are put
together.
-/

namespace MobileMoney

/-! ## What is seen -/

def Request.target (request : Request) : Method × String :=
  (request.method, request.url)

/-- Two requests with one target, of which both can be sent or neither. -/
structure Request.LooksLike (request other : Request) : Prop where
  target : request.target = other.target
  sendable : request.isSendable = other.isSendable

theorem Request.looksLike_of_headers {request other : Request}
    (htarget : request.target = other.target) (hheaders : request.headers = other.headers) :
    request.LooksLike other where
  target := htarget
  sendable := by
    have hurl : request.url = other.url := congrArg Prod.snd htarget
    rw [isSendable, isSendable, hurl, hheaders]

/-- The outside answers by the targets of requests alone. -/
def World.IsBlind (world : World) : Prop :=
  ∀ requests others, requests.map Request.target = others.map Request.target →
    world.deliver requests = world.deliver others

/-- The world that has fixed beforehand what becomes of the first request, of the second, and so
on. -/
def World.scripted (script : Nat → Delivery) (clock : Nat → Instant) (identifier : Nat → String) :
    World where
  deliver requests := script requests.length
  clock := clock
  identifier := identifier

theorem World.isBlind_scripted (script : Nat → Delivery) (clock : Nat → Instant)
    (identifier : Nat → String) : (scripted script clock identifier).IsBlind := by
  intro requests others h
  have hlength := congrArg List.length h
  rw [List.length_map, List.length_map] at hlength
  exact congrArg script hlength

namespace Session

/-- What is seen of a session. -/
structure View where
  trace : List ((Method × String) × Delivery)
  readings : Nat
  drawn : Nat
  tokens : TokenCache

def view (session : Session) : View where
  trace := session.log.map fun e ↦ (e.request.target, e.delivery)
  readings := session.readings
  drawn := session.drawn
  tokens := session.tokens

theorem map_target_requests (session : Session) :
    session.requests.map Request.target = session.view.trace.map Prod.fst := by
  simp only [requests, view, List.map_map]
  rfl

end Session

namespace Call

variable {α β : Type} {world : World}

/-! ## Calls -/

def LooksLike (world : World) (call other : Call α) : Prop :=
  ∀ session session', session.view = session'.view →
    (call world session).1 = (other world session').1 ∧
      (call world session).2.view = (other world session').2.view

/-- A call that does nothing but what its view says. -/
theorem looksLike_of_view {call : Call α} (seen : Session.View → Outcome α × Session.View)
    (h : ∀ session, ((call world session).1, (call world session).2.view) = seen session.view) :
    LooksLike world call call := by
  intro session session' hview
  have hsame : ((call world session).1, (call world session).2.view) =
      ((call world session').1, (call world session').2.view) := by
    rw [h, h, hview]
  exact Prod.mk.injEq .. ▸ hsame

theorem looksLike_pure (value : α) : LooksLike world (pure value) (pure value) :=
  looksLike_of_view (fun view ↦ (.done value, view)) fun _ ↦ rfl

theorem looksLike_throw (error : PaymentError) :
    LooksLike world (throw error : Call α) (throw error) :=
  looksLike_of_view (fun view ↦ (.failed error, view)) fun _ ↦ rfl

theorem looksLike_ofExcept (result : Except PaymentError α) :
    LooksLike world (ofExcept result) (ofExcept result) := by
  cases result with
  | ok value => exact looksLike_pure value
  | error error => exact looksLike_throw error

theorem looksLike_ofCalendar (value : Option α) :
    LooksLike world (ofCalendar value) (ofCalendar value) := by
  cases value with
  | some value => exact looksLike_pure value
  | none => exact looksLike_of_view (fun view ↦ (.aborted, view)) fun _ ↦ rfl

theorem looksLike_readClock : LooksLike world readClock readClock :=
  looksLike_of_view (fun view ↦
    (.done (world.clock view.readings), { view with readings := view.readings + 1 })) fun _ ↦ rfl

theorem looksLike_drawIdentifier : LooksLike world drawIdentifier drawIdentifier :=
  looksLike_of_view (fun view ↦
    (.done (world.identifier view.drawn), { view with drawn := view.drawn + 1 })) fun _ ↦ rfl

theorem looksLike_tokens : LooksLike world tokens tokens :=
  looksLike_of_view (fun view ↦ (.done view.tokens, view)) fun _ ↦ rfl

theorem looksLike_updateTokens (f : TokenCache → TokenCache) :
    LooksLike world (updateTokens f) (updateTokens f) :=
  looksLike_of_view (fun view ↦ (.done (), { view with tokens := f view.tokens })) fun _ ↦ rfl

/-- What is sent is answered by its target. -/
theorem looksLike_send (hworld : world.IsBlind) (provider : Provider) {request other : Request}
    (h : request.LooksLike other) :
    LooksLike world (send provider request) (send provider other) := by
  intro session session' hview
  by_cases hsendable : request.isSendable
  · have hother : other.isSendable = true := h.sendable ▸ hsendable
    have htrace : session.view.trace = session'.view.trace := congrArg Session.View.trace hview
    have hdeliver : world.deliver (session.requests ++ [request]) =
        world.deliver (session'.requests ++ [other]) := by
      apply hworld
      rw [List.map_append, List.map_append, session.map_target_requests,
        session'.map_target_requests, htrace, List.map_singleton, List.map_singleton, h.target]
    rw [send, if_pos hsendable, send, if_pos hother]
    refine ⟨congrArg (reply provider) hdeliver, ?_⟩
    have hlast : (request.target, world.deliver (session.requests ++ [request])) =
        (other.target, world.deliver (session'.requests ++ [other])) := by
      rw [h.target, hdeliver]
    simp only [Session.view, List.map_append, List.map_singleton, Session.View.mk.injEq] at hview ⊢
    exact ⟨by rw [hview.1, hlast], hview.2⟩
  · have hother : ¬ other.isSendable := h.sendable ▸ hsendable
    rw [send, if_neg hsendable, send, if_neg hother]
    exact ⟨rfl, hview⟩

/-! ## Chains -/

theorem LooksLike.bind {call other : Call α} {next next' : α → Call β}
    (hcall : LooksLike world call other)
    (hnext : ∀ value, LooksLike world (next value) (next' value)) :
    LooksLike world (call >>= next) (other >>= next') := by
  intro session session' hview
  obtain ⟨houtcome, hseen⟩ := hcall session session' hview
  generalize hrun : call world session = run at houtcome hseen
  generalize hrun' : other world session' = run' at houtcome hseen
  obtain ⟨outcome, after⟩ := run
  obtain ⟨outcome', after'⟩ := run'
  obtain rfl : outcome = outcome' := houtcome
  cases outcome with
  | done value =>
    rw [bind_done hrun, bind_done hrun']
    exact hnext value after after' hseen
  | failed error =>
    rw [bind_failed hrun, bind_failed hrun']
    exact ⟨rfl, hseen⟩
  | aborted =>
    rw [bind_aborted hrun, bind_aborted hrun']
    exact ⟨rfl, hseen⟩

/-- Two checks that fail alike, in front of what looks alike for all values that pass. -/
theorem looksLike_ofExcept_bind {result other : Except PaymentError α} {next next' : α → Call β}
    (hresult : result.map (fun _ ↦ ()) = other.map fun _ ↦ ())
    (hnext : ∀ value value', LooksLike world (next value) (next' value')) :
    LooksLike world (ofExcept result >>= next) (ofExcept other >>= next') := by
  cases result with
  | error error =>
    cases other with
    | error error' =>
      obtain rfl := Except.error.inj hresult
      exact looksLike_throw error
    | ok value => exact nomatch hresult
  | ok value =>
    cases other with
    | error error => exact nomatch hresult
    | ok value' => exact hnext value value'

theorem LooksLike.attemptFrom {call other : Call α} (hcall : LooksLike world call other)
    (policy : RetryPolicy) (spare attempt : Nat) :
    LooksLike world (attemptFrom policy (fun _ ↦ pure ()) call spare attempt)
      (attemptFrom policy (fun _ ↦ pure ()) other spare attempt) := by
  -- Alike attempts fail alike, so there is another attempt on both sides or on neither.
  induction spare generalizing attempt with
  | zero => exact hcall
  | succ spare ih =>
    intro session session' hview
    obtain ⟨houtcome, hseen⟩ := hcall session session' hview
    by_cases hagain : ∃ error, (call world session).1 = .failed error ∧ error.isRetryable = true
    · obtain ⟨error, hfailed, hretryable⟩ := hagain
      have hfailed' : (other world session').1 = .failed error := houtcome ▸ hfailed
      rw [attemptFrom_again hfailed hretryable, attemptFrom_again hfailed' hretryable]
      exact ih (attempt + 1) _ _ hseen
    · have hagain' := houtcome ▸ hagain
      rw [attemptFrom_last hagain, attemptFrom_last hagain']
      exact ⟨houtcome, hseen⟩

theorem LooksLike.retried {call other : Call α} (hcall : LooksLike world call other)
    (policy : RetryPolicy) : LooksLike world (retried policy call) (retried policy other) :=
  hcall.attemptFrom policy _ 1

/-! ## Tokens -/

section

variable (hworld : world.IsBlind) (key : TokenKey) {request other : Request}
  (h : request.LooksLike other)

theorem looksLike_usableToken? : LooksLike world (usableToken? key) (usableToken? key) := by
  refine looksLike_tokens.bind fun cache ↦ ?_
  split
  · exact looksLike_pure none
  · exact looksLike_readClock.bind fun now ↦ looksLike_ofCalendar _

include hworld h

theorem looksLike_exchange (provider : Provider) :
    LooksLike world (exchange provider request) (exchange provider other) := by
  refine (looksLike_send hworld provider h).bind fun reply ↦ ?_
  refine (looksLike_ofExcept _).bind fun grant ↦ ?_
  exact looksLike_readClock.bind fun now ↦ looksLike_ofCalendar _

theorem looksLike_accessToken (policy : RetryPolicy) :
    LooksLike world (accessToken policy key request) (accessToken policy key other) := by
  apply LooksLike.retried _ policy
  refine (looksLike_usableToken? key).bind fun kept ↦ ?_
  cases kept with
  | some token => exact looksLike_pure token
  | none =>
    refine (looksLike_exchange hworld h key.provider).bind fun credential ↦ ?_
    exact (looksLike_updateTokens _).bind fun _ ↦ looksLike_pure _

theorem looksLike_sendAuthorized :
    LooksLike world (sendAuthorized key request) (sendAuthorized key other) := by
  refine (looksLike_send hworld key.provider h).bind fun reply ↦ ?_
  by_cases hstatus : reply.status = 401
  · simp only [hstatus, if_true]
    exact (looksLike_updateTokens _).bind fun _ ↦ looksLike_pure _
  · simp only [hstatus, if_false]
    exact looksLike_pure reply

end

end Call

end MobileMoney
