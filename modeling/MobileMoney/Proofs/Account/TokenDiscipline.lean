import MobileMoney.Account
import MobileMoney.Proofs.Token.Tracking

/-!
# Tokens over whole sessions

Collections, disbursements and questions of one account, one after the other and whatever becomes of
each, leave a session that is tracked by a history of tokens.
-/

namespace MobileMoney

open Call

/-! ## M-Pesa -/

namespace Mpesa.Account

/-- The exchange request has an authorization of another kind. -/
def tokenClient (account : Account) : TokenClient where
  key := account.tokenKey
  exchangeRequest := account.exchangeRequest
  bearsNone token h := by
    have hvalue : "Basic " ++ Digest.Base64.encode
        (account.config.consumerKey ++ ":" ++ account.config.consumerSecret) =
          "Bearer " ++ token := Option.some.inj h
    have hchars := congrArg String.toList hvalue
    simp at hchars

variable (account : Account) {world : World} {margin : Duration}

theorem post_keeps (path : String) (body : Json) :
    (account.post path body).Keeps world (IsTracked account.tokenClient world margin) := by
  apply authorized_keeps account.policy
  intro token session hsession hholds
  exact sendAuthorized_tracked hsession rfl hholds

theorem collect_keeps (request : CollectionRequest) :
    (account.collect request).Keeps world (IsTracked account.tokenClient world margin) := by
  refine (keeps_ofExcept _).bind fun prepared ↦ ?_
  refine (keeps_readClock _ _ _).bind fun now ↦ ?_
  refine (account.post_keeps _ _).bind fun reply ↦ ?_
  exact keeps_ofExcept _

theorem disburse_keeps (request : DisbursementRequest) :
    (account.disburse request).Keeps world (IsTracked account.tokenClient world margin) := by
  refine (keeps_ofExcept _).bind fun prepared ↦ ?_
  refine (keeps_ofExcept _).bind fun terms ↦ ?_
  refine (keeps_drawIdentifier _ _ _).bind fun identifier ↦ ?_
  refine (account.post_keeps _ _).bind fun reply ↦ ?_
  exact keeps_ofExcept _

theorem queryOnce_keeps (id : String) :
    (account.queryOnce id).Keeps world (IsTracked account.tokenClient world margin) := by
  refine (keeps_readClock _ _ _).bind fun now ↦ ?_
  refine (account.post_keeps _ _).bind fun reply ↦ ?_
  exact keeps_ofExcept _

theorem query_keeps (id : String) :
    (account.query id).Keeps world (IsTracked account.tokenClient world margin) := by
  unfold query
  by_cases hblank : Text.isBlankText id
  · rw [if_pos hblank]
    exact keeps_throw _
  · rw [if_neg hblank]
    exact keeps_retried (account.queryOnce_keeps id) account.policy

end Mpesa.Account

/-! ## Airtel Money -/

namespace Airtel.Account

/-- The exchange request has no authorization at all. -/
def tokenClient (account : Account) : TokenClient where
  key := account.tokenKey
  exchangeRequest := account.exchangeRequest
  bearsNone _ h := nomatch h

variable (account : Account) {world : World} {margin : Duration}

theorem getRequest_bears (path token : String) :
    (account.getRequest path token).Bears token := rfl

theorem postRequest_bears (path : String) (body : Json) (token : String) :
    (account.postRequest path body token).Bears token := rfl

theorem send_keeps {request : String → Request} (hbears : ∀ token, (request token).Bears token) :
    (account.send request).Keeps world (IsTracked account.tokenClient world margin) := by
  apply authorized_keeps account.policy
  intro token session hsession hholds
  have hsent := sendAuthorized_tracked hsession (hbears token) hholds
  apply keeps_bind_at hsent
  intro reply _
  exact keeps_ofExcept reply.checked _ hsent

theorem collect_keeps (request : CollectionRequest) :
    (account.collect request).Keeps world (IsTracked account.tokenClient world margin) := by
  refine (keeps_ofExcept _).bind fun prepared ↦ ?_
  refine (account.send_keeps (account.postRequest_bears _ _)).bind fun reply ↦ ?_
  exact keeps_ofExcept _

theorem disburse_keeps (request : DisbursementRequest) :
    (account.disburse request).Keeps world (IsTracked account.tokenClient world margin) := by
  refine (keeps_ofExcept _).bind fun prepared ↦ ?_
  refine (keeps_ofExcept _).bind fun pin ↦ ?_
  refine (account.send_keeps (account.postRequest_bears _ _)).bind fun reply ↦ ?_
  exact keeps_ofExcept _

theorem queryOnce_keeps (id : String) :
    (account.queryOnce id).Keeps world (IsTracked account.tokenClient world margin) := by
  refine (account.send_keeps (account.getRequest_bears _)).bind fun reply ↦ ?_
  exact keeps_ofExcept _

theorem query_keeps (id : String) :
    (account.query id).Keeps world (IsTracked account.tokenClient world margin) := by
  unfold query
  by_cases hblank : Text.isBlankText id
  · rw [if_pos hblank]
    exact keeps_throw _
  · rw [if_neg hblank]
    exact keeps_retried (account.queryOnce_keeps id) account.policy

end Airtel.Account

/-! ## Runs -/

/-- What can be asked of an account. -/
inductive Operation where
  | collect (request : CollectionRequest)
  | disburse (request : DisbursementRequest)
  | query (id : String)

namespace Account

/-- The session after an operation, whatever its outcome. -/
def perform (account : Account) (world : World) (session : Session) : Operation → Session
  | .collect request => (account.collect request world session).2
  | .disburse request => (account.disburse request world session).2
  | .query id => (account.query id world session).2

def run (account : Account) (world : World) (session : Session) (operations : List Operation) :
    Session :=
  operations.foldl (account.perform world) session

/-- What every operation keeps is kept by every run. -/
theorem run_keeps {account : Account} {world : World} {invariant : Session → Prop}
    (hperform : ∀ session operation, invariant session →
      invariant (account.perform world session operation))
    {session : Session} (hsession : invariant session) (operations : List Operation) :
    invariant (account.run world session operations) := by
  induction operations generalizing session with
  | nil => exact hsession
  | cons operation operations ih => exact ih (hperform session operation hsession)

end Account

open TokenEvent

/-- A history that is the log of a session and that uses tokens as it should.  Credentials that last
are exchanged once, and once more for each rejection. -/
structure IsTokenRecord (client : TokenClient) (world : World) (margin : Duration)
    (session : Session) (events : List TokenEvent) : Prop where
  log : session.log = events.map (entry client)
  accurate : ∀ event ∈ events, event.IsAccurate client world session.readings
  disciplined : IsDisciplined events
  frugal : IsLasting world margin session.readings events →
    events.countP isSuccessful ≤ 1 + events.countP isRejected

theorem Tracks.isTokenRecord {client : TokenClient} {world : World} {margin : Duration}
    {session : Session} {events : List TokenEvent}
    (h : Tracks client world margin session events) :
    IsTokenRecord client world margin session events where
  log := h.log
  accurate := h.orderly.isAccurate
  disciplined := h.orderly.isDisciplined
  frugal hlasting := by
    have hcount := h.orderly.countP_isSuccessful_le hlasting
    have hheld : (if (held events).isSome then 1 else 0) ≤ 1 := by split <;> omega
    omega

namespace Account

/-- Every run of an account, from an empty cache and in any world, has a record of its tokens. -/
def HasTokenDiscipline (account : Account) (client : TokenClient) : Prop :=
  ∀ world margin operations, ∃ events,
    IsTokenRecord client world margin (account.run world (.start margin) operations) events

theorem hasTokenDiscipline_of_keeps {account : Account} {client : TokenClient}
    (h : ∀ world margin session operation, IsTracked client world margin session →
      IsTracked client world margin (account.perform world session operation)) :
    account.HasTokenDiscipline client := by
  intro world margin operations
  obtain ⟨events, htracks⟩ := run_keeps (h world margin) isTracked_start operations
  exact ⟨events, htracks.isTokenRecord⟩

/-- **Discipline with tokens.**  In every run of an M-Pesa or an Airtel Money account each request
that bears a token bears that of the newest successful exchange before it; after an answer 401 to
such a request the next one is sent after another successful exchange; and if the credentials stay
usable there is at most one successful exchange more than there are answers 401. -/
theorem tokens_disciplined :
    (∀ account : Mpesa.Account, (mpesa account).HasTokenDiscipline account.tokenClient) ∧
      ∀ account : Airtel.Account, (airtel account).HasTokenDiscipline account.tokenClient := by
  constructor
  · intro account
    apply hasTokenDiscipline_of_keeps
    intro world margin session operation hsession
    cases operation with
    | collect request => exact account.collect_keeps request session hsession
    | disburse request => exact account.disburse_keeps request session hsession
    | query id => exact account.query_keeps id session hsession
  · intro account
    apply hasTokenDiscipline_of_keeps
    intro world margin session operation hsession
    cases operation with
    | collect request => exact account.collect_keeps request session hsession
    | disburse request => exact account.disburse_keeps request session hsession
    | query id => exact account.query_keeps id session hsession

end Account

end MobileMoney
