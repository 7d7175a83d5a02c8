import MobileMoney.Proofs.Account.Initiation
import MobileMoney.Proofs.Token.Recall

/-!
# The budget of a question

A question about a payment is repeated under the policy of the account, and so is each exchange for
the token that it needs.  The budgets multiply: with `n` attempts there are at most `n` questions,
but up to `n * n` exchanges, and where every exchange is refused there are that many.
-/

namespace MobileMoney

/-! ## Exchanges and questions -/

def Request.goesTo (method : Method) (url : String) (request : Request) : Bool :=
  request.method = method && request.url = url

/-- Every request is an exchange or a question, and of neither there are too many. -/
structure IsBudgeted (isExchange isQuestion : Request → Bool) (exchanges questions : Nat)
    (sent : List Exchange) : Prop where
  kinds : ∀ e ∈ sent, isExchange e.request = !isQuestion e.request
  exchanges_le : sent.countP (isExchange ·.request) ≤ exchanges
  questions_le : sent.countP (isQuestion ·.request) ≤ questions

section

variable {α : Type} {isExchange isQuestion : Request → Bool} {exchanges questions : Nat}
  {sent : List Exchange}

theorem isBudgeted_nil : IsBudgeted isExchange isQuestion exchanges questions [] :=
  ⟨List.forall_mem_nil _, Nat.zero_le _, Nat.zero_le _⟩

theorem IsBudgeted.append {moreExchanges moreQuestions : Nat} {rest : List Exchange}
    (h : IsBudgeted isExchange isQuestion exchanges questions sent)
    (hrest : IsBudgeted isExchange isQuestion moreExchanges moreQuestions rest) :
    IsBudgeted isExchange isQuestion (exchanges + moreExchanges) (questions + moreQuestions)
      (sent ++ rest) where
  kinds := List.forall_mem_append.mpr ⟨h.kinds, hrest.kinds⟩
  exchanges_le := List.countP_append ▸ Nat.add_le_add h.exchanges_le hrest.exchanges_le
  questions_le := List.countP_append ▸ Nat.add_le_add h.questions_le hrest.questions_le

theorem IsBudgeted.mono {larger more : Nat}
    (h : IsBudgeted isExchange isQuestion exchanges questions sent)
    (hexchanges : exchanges ≤ larger) (hquestions : questions ≤ more) :
    IsBudgeted isExchange isQuestion larger more sent where
  kinds := h.kinds
  exchanges_le := Nat.le_trans h.exchanges_le hexchanges
  questions_le := Nat.le_trans h.questions_le hquestions

theorem Call.OnlyAsks.countP_le {request : Request} {most : Nat} (h : OnlyAsks request most sent)
    (p : Request → Bool) : sent.countP (p ·.request) ≤ if p request then most else 0 := by
  cases hp : p request with
  | true => exact Nat.le_trans List.countP_le_length h.few
  | false =>
    apply Nat.le_of_eq
    apply List.countP_eq_zero.mpr
    intro e he
    simp [h.same e he, hp]

/-- Requests of one kind only. -/
theorem Call.OnlyAsks.isBudgeted {request : Request} {most : Nat}
    (h : OnlyAsks request most sent) (hkind : isExchange request = !isQuestion request) :
    IsBudgeted isExchange isQuestion (if isExchange request then most else 0)
      (if isQuestion request then most else 0) sent where
  kinds e he := by rw [h.same e he, hkind]
  exchanges_le := h.countP_le isExchange
  questions_le := h.countP_le isQuestion

/-- The budget of one attempt is spent by every attempt. -/
theorem Call.Repeated.isBudgeted {spare : Nat} {outcome : Outcome α}
    (h : Repeated (fun sent _ ↦ IsBudgeted isExchange isQuestion exchanges questions sent)
      spare sent outcome) :
    IsBudgeted isExchange isQuestion ((spare + 1) * exchanges) ((spare + 1) * questions) sent := by
  induction h with
  | last attempt =>
    exact attempt.mono (Nat.le_mul_of_pos_left _ (Nat.succ_pos _))
      (Nat.le_mul_of_pos_left _ (Nat.succ_pos _))
  | again attempt _ _ ih =>
    rw [Nat.succ_mul (_ + 1), Nat.succ_mul (_ + 1), Nat.add_comm _ exchanges,
      Nat.add_comm _ questions]
    exact attempt.append ih

end

namespace Call

variable {α : Type} {isExchange isQuestion : Request → Bool}

theorem sendAuthorized_isBudgeted (key : TokenKey) {question : Request}
    (hquestion : isQuestion question = true) (hnoExchange : isExchange question = false) :
    (sendAuthorized key question).Sends fun sent _ ↦
      IsBudgeted isExchange isQuestion 0 1 sent := by
  apply (sendAuthorized_sends key question).mono
  intro sent outcome hsent
  have hbudget : IsBudgeted isExchange isQuestion _ _ sent :=
    hsent.onlyAsks.isBudgeted (by rw [hquestion, hnoExchange, Bool.not_true])
  rwa [hquestion, hnoExchange] at hbudget

/-- The exchanges for a token, and what is asked with it. -/
theorem accessToken_bind_isBudgeted (policy : RetryPolicy) (key : TokenKey) {exchange : Request}
    {next : String → Call α} (hexchange : isExchange exchange = true)
    (hnoQuestion : isQuestion exchange = false)
    (hnext : ∀ token, (next token).Sends fun sent _ ↦
      IsBudgeted isExchange isQuestion 0 1 sent) :
    (accessToken policy key exchange >>= next).Sends fun sent _ ↦
      IsBudgeted isExchange isQuestion (max 1 policy.maxAttempts) 1 sent := by
  have hasked (sent : List Exchange) (h : OnlyAsks exchange (max 1 policy.maxAttempts) sent) :
      IsBudgeted isExchange isQuestion (max 1 policy.maxAttempts) 0 sent := by
    have hbudget : IsBudgeted isExchange isQuestion _ _ sent :=
      h.isBudgeted (by rw [hexchange, hnoQuestion, Bool.not_false])
    rwa [hexchange, hnoQuestion] at hbudget
  have hended (sent : List Exchange) (h : OnlyAsks exchange (max 1 policy.maxAttempts) sent) :
      IsBudgeted isExchange isQuestion (max 1 policy.maxAttempts) 1 sent :=
    (hasked sent h).mono (Nat.le_refl _) (Nat.zero_le _)
  refine (accessToken_sends policy key exchange).bind (fun sent token hsent ↦ ?_)
    (fun sent _ ↦ hended sent) hended
  exact (hnext token).mono fun rest _ hrest ↦ (hasked sent hsent).append hrest

/-- A repeated question. -/
theorem retried_isBudgeted (policy : RetryPolicy) {call : Call α} {exchanges : Nat}
    (hcall : call.Sends fun sent _ ↦ IsBudgeted isExchange isQuestion exchanges 1 sent) :
    (retried policy call).Sends fun sent _ ↦ IsBudgeted isExchange isQuestion
      (max 1 policy.maxAttempts * exchanges) (max 1 policy.maxAttempts) sent := by
  refine (retried_sends policy hcall).mono fun sent _ hsent ↦ ?_
  have hattempts : policy.maxAttempts - 1 + 1 = max 1 policy.maxAttempts := by omega
  have hbudget := hsent.isBudgeted
  rwa [hattempts, Nat.mul_one] at hbudget

end Call

/-! ## A rail that refuses every exchange -/

/-- Every request is answered with an internal error. -/
def World.Refuses (world : World) : Prop :=
  ∀ requests, world.deliver requests = .answered 500 ""

namespace Call

variable {α β : Type} {world : World} {key : TokenKey} {request : Request}

/-- What is made of the refusal of an exchange. -/
def refusal (provider : Provider) : PaymentError :=
  let status := Decimal.write 500
  .authentication provider s!"token exchange failed with HTTP {status}"

/-- As long as no token is kept, a call sends a request so many times, each of which is refused, and
fails. -/
def Exhausts (world : World) (key : TokenKey) (request : Request) (count : Nat) (call : Call α) :
    Prop :=
  ∀ session, session.tokens.find? key = none → ∃ session',
    call world session = (.failed (refusal key.provider), session') ∧
      session'.tokens.find? key = none ∧
      session'.log = session.log ++ List.replicate count ⟨request, .answered 500 ""⟩

theorem Exhausts.bind {count : Nat} {call : Call α} (hcall : call.Exhausts world key request count)
    (next : α → Call β) : (call >>= next).Exhausts world key request count := by
  intro session hnone
  obtain ⟨session', hrun, hleft⟩ := hcall session hnone
  exact ⟨session', bind_failed hrun next, hleft⟩

theorem exhausts_readClock_bind {count : Nat} {next : Instant → Call β}
    (hnext : ∀ now, (next now).Exhausts world key request count) :
    (readClock >>= next).Exhausts world key request count :=
  fun session hnone ↦ hnext (world.clock session.readings) session.later hnone

theorem Exhausts.attemptFrom {count : Nat} {call : Call α}
    (hcall : call.Exhausts world key request count) (policy : RetryPolicy) (spare attempt : Nat) :
    (attemptFrom policy (fun _ ↦ pure ()) call spare attempt).Exhausts world key request
      ((spare + 1) * count) := by
  -- A refusal allows another attempt, and leaves no token behind.
  induction spare generalizing attempt with
  | zero =>
    rw [Nat.zero_add, Nat.one_mul]
    exact hcall
  | succ spare ih =>
    intro session hnone
    obtain ⟨session', hrun, hnone', hlog⟩ := hcall session hnone
    obtain ⟨session'', hrest, hnone'', hlog'⟩ := ih (attempt + 1) session' hnone'
    refine ⟨session'', ?_, hnone'', ?_⟩
    · rw [attemptFrom_again (congrArg Prod.fst hrun) rfl, hrun]
      exact hrest
    · rw [hlog', hlog, List.append_assoc, List.replicate_append_replicate,
        Nat.succ_mul (spare + 1), Nat.add_comm]

theorem Exhausts.retried {count : Nat} {call : Call α}
    (hcall : call.Exhausts world key request count) (policy : RetryPolicy) :
    (retried policy call).Exhausts world key request (max 1 policy.maxAttempts * count) := by
  have hattempts : policy.maxAttempts - 1 + 1 = max 1 policy.maxAttempts := by omega
  exact hattempts ▸ hcall.attemptFrom policy _ 1

theorem exchange_exhausts (hworld : world.Refuses) (hsendable : request.isSendable = true) :
    (exchange key.provider request).Exhausts world key request 1 := by
  intro session hnone
  have hsend : send key.provider request world session =
      (.done ⟨key.provider, 500, ""⟩, session.sent request (.answered 500 "")) := by
    rw [send, if_pos hsendable, hworld]
    rfl
  refine ⟨session.sent request (.answered 500 ""), ?_, hnone, rfl⟩
  rw [exchange, bind_done hsend]
  rfl

theorem accessToken_exhausts (hworld : world.Refuses) (hsendable : request.isSendable = true)
    (policy : RetryPolicy) :
    (accessToken policy key request).Exhausts world key request (max 1 policy.maxAttempts) := by
  have hbearer :
      (bearerToken key (exchange key.provider request)).Exhausts world key request 1 := by
    intro session hnone
    have hlookup : usableToken? key world session = (.done none, session) := by
      rw [usableToken?_eq, TokenCache.usableToken?, Session.afterLookup, hnone]
      rfl
    unfold bearerToken
    rw [bind_done hlookup]
    exact (exchange_exhausts hworld hsendable).bind _ session hnone
  have hretried := hbearer.retried policy
  rwa [Nat.mul_one] at hretried

end Call

/-! ## Questions of the rails -/

namespace Mpesa.Account

variable (account : Account)

def queryUrl : String :=
  account.config.baseUrl ++ "/mpesa/stkpushquery/v1/query"

def isExchange (request : Request) : Bool :=
  request.goesTo .get account.exchangeRequest.url

def isQuestion (request : Request) : Bool :=
  request.goesTo .post account.queryUrl

theorem isQuestion_exchangeRequest : account.isQuestion account.exchangeRequest = false := by
  simp [isQuestion, Request.goesTo, exchangeRequest]

theorem isQuestion_postRequest (body : Json) (token : String) :
    account.isQuestion (account.postRequest "/mpesa/stkpushquery/v1/query" body token) = true := by
  simp [isQuestion, Request.goesTo, postRequest, queryUrl]

theorem query_isBudgeted (id : String) :
    (account.query id).Sends fun sent _ ↦ IsBudgeted account.isExchange account.isQuestion
      (account.tokenAttempts * account.tokenAttempts) account.tokenAttempts sent := by
  unfold query
  by_cases hblank : Text.isBlankText id
  · rw [if_pos hblank]
    exact fun _ _ ↦ ⟨[], (List.append_nil _).symm, isBudgeted_nil⟩
  · rw [if_neg hblank]
    apply Call.retried_isBudgeted account.policy
    refine Call.isSilent_readClock.bind_sends (fun now ↦ ?_) (fun _ ↦ isBudgeted_nil)
      isBudgeted_nil
    refine Call.Sends.bind_silent ?_ fun reply ↦ Call.isSilent_ofExcept _
    apply Call.accessToken_bind_isBudgeted account.policy account.tokenKey
    case hexchange => simp [isExchange, Request.goesTo, exchangeRequest]
    case hnoQuestion => exact account.isQuestion_exchangeRequest
    case hnext =>
      intro token
      apply Call.sendAuthorized_isBudgeted
      case hquestion => exact account.isQuestion_postRequest _ token
      case hnoExchange => simp [isExchange, Request.goesTo, postRequest]

theorem query_exhausts {world : World} (hworld : world.Refuses)
    (hsendable : account.exchangeRequest.isSendable = true) {id : String}
    (hid : Text.isBlankText id = false) :
    (account.query id).Exhausts world account.tokenKey account.exchangeRequest
      (account.tokenAttempts * account.tokenAttempts) := by
  unfold query
  rw [hid, if_neg Bool.false_ne_true]
  apply Call.Exhausts.retried _ account.policy
  apply Call.exhausts_readClock_bind
  intro now
  have htoken : account.accessToken.Exhausts world account.tokenKey account.exchangeRequest
      account.tokenAttempts := Call.accessToken_exhausts hworld hsendable account.policy
  exact (htoken.bind _).bind _

end Mpesa.Account

namespace Airtel.Account

variable (account : Account)

def queryUrl (id : String) : String :=
  account.config.baseUrl ++ ("/standard/v1/payments/" ++ id)

def isExchange (request : Request) : Bool :=
  request.goesTo .post account.exchangeRequest.url

def isQuestion (id : String) (request : Request) : Bool :=
  request.goesTo .get (account.queryUrl id)

theorem isQuestion_exchangeRequest (id : String) :
    account.isQuestion id account.exchangeRequest = false := by
  simp [isQuestion, Request.goesTo, exchangeRequest]

theorem isQuestion_getRequest (id token : String) :
    account.isQuestion id (account.getRequest ("/standard/v1/payments/" ++ id) token) = true := by
  simp [isQuestion, Request.goesTo, getRequest, queryUrl]

theorem query_isBudgeted (id : String) :
    (account.query id).Sends fun sent _ ↦ IsBudgeted account.isExchange (account.isQuestion id)
      (account.tokenAttempts * account.tokenAttempts) account.tokenAttempts sent := by
  unfold query
  by_cases hblank : Text.isBlankText id
  · rw [if_pos hblank]
    exact fun _ _ ↦ ⟨[], (List.append_nil _).symm, isBudgeted_nil⟩
  · rw [if_neg hblank]
    apply Call.retried_isBudgeted account.policy
    refine Call.Sends.bind_silent ?_ fun reply ↦ Call.isSilent_ofExcept _
    apply Call.accessToken_bind_isBudgeted account.policy account.tokenKey
    case hexchange => simp [isExchange, Request.goesTo, exchangeRequest]
    case hnoQuestion => exact account.isQuestion_exchangeRequest id
    case hnext =>
      intro token
      refine Call.Sends.bind_silent ?_ fun reply ↦ Call.isSilent_ofExcept _
      apply Call.sendAuthorized_isBudgeted
      case hquestion => exact account.isQuestion_getRequest id token
      case hnoExchange => simp [isExchange, Request.goesTo, getRequest]

theorem query_exhausts {world : World} (hworld : world.Refuses)
    (hsendable : account.exchangeRequest.isSendable = true) {id : String}
    (hid : Text.isBlankText id = false) :
    (account.query id).Exhausts world account.tokenKey account.exchangeRequest
      (account.tokenAttempts * account.tokenAttempts) := by
  unfold query
  rw [hid, if_neg Bool.false_ne_true]
  apply Call.Exhausts.retried _ account.policy
  have htoken : account.accessToken.Exhausts world account.tokenKey account.exchangeRequest
      account.tokenAttempts := Call.accessToken_exhausts hworld hsendable account.policy
  exact (htoken.bind _).bind _

end Airtel.Account

/-! ## All rails -/

namespace Account

/-- Whether a request is a token exchange. -/
def isExchange : Account → Request → Bool
  | mpesa account => account.isExchange
  | airtel account => account.isExchange
  | tigo _ => fun _ ↦ false

/-- Whether a request is a question about a payment. -/
def isQuestion : Account → String → Request → Bool
  | mpesa account => fun _ ↦ account.isQuestion
  | airtel account => account.isQuestion
  | tigo _ => fun _ _ ↦ false

theorem query_isBudgeted (account : Account) (id : String) :
    (account.query id).Sends fun sent _ ↦ IsBudgeted account.isExchange (account.isQuestion id)
      (account.tokenAttempts * account.tokenAttempts) account.tokenAttempts sent := by
  cases account with
  | mpesa account => exact account.query_isBudgeted id
  | airtel account => exact account.query_isBudgeted id
  | tigo account => exact fun _ _ ↦ ⟨[], (List.append_nil _).symm, isBudgeted_nil⟩

/-- Where every exchange is refused, the budgets are used up. -/
theorem query_exhausts (account : Account) {request : Request}
    (hrequest : account.exchangeRequest? = some request) (hsendable : request.isSendable = true)
    {id : String} (hid : Text.isBlankText id = false) {world : World} (hworld : world.Refuses)
    (margin : Duration) :
    (account.query id world (.start margin)).2.log =
      List.replicate (account.tokenAttempts * account.tokenAttempts)
        ⟨request, .answered 500 ""⟩ := by
  cases account with
  | mpesa account =>
    obtain rfl := Option.some.inj hrequest
    obtain ⟨session, hrun, -, hlog⟩ :=
      account.query_exhausts hworld hsendable hid (.start margin) rfl
    exact (congrArg (·.2.log) hrun).trans hlog
  | airtel account =>
    obtain rfl := Option.some.inj hrequest
    obtain ⟨session, hrun, -, hlog⟩ :=
      account.query_exhausts hworld hsendable hid (.start margin) rfl
    exact (congrArg (·.2.log) hrun).trans hlog
  | tigo account => exact nomatch hrequest

/-- **The budget of a question.**  A question about a payment is sent as often as the policy has
attempts, at most, and the exchange for its token as often as the square of that; and it is sent so
often where every exchange is refused. -/
theorem query_spends_square (account : Account) (id : String) :
    (account.query id).Sends (fun sent _ ↦ IsBudgeted account.isExchange (account.isQuestion id)
      (account.tokenAttempts * account.tokenAttempts) account.tokenAttempts sent) ∧
    ∀ request, account.exchangeRequest? = some request → request.isSendable = true →
      Text.isBlankText id = false → ∀ world, world.Refuses → ∀ margin,
        (account.query id world (.start margin)).2.log =
          List.replicate (account.tokenAttempts * account.tokenAttempts)
            ⟨request, .answered 500 ""⟩ :=
  ⟨account.query_isBudgeted id, fun _ hrequest hsendable hid _ hworld ↦
    account.query_exhausts hrequest hsendable hid hworld⟩

/-! ### Two attempts -/

/-- An account under a policy of two attempts. -/
def twiceAccount : Mpesa.Account where
  config := ⟨"consumer-key", "consumer-secret", "174379", "passkey", "https://example.com/cb",
    none, none, none, none, none, none, .sandbox, none⟩
  policy := .of 2 .zero .zero

def refusingWorld : World where
  deliver _ := .answered 500 ""
  clock _ := ⟨1700000060, 0, by decide⟩
  identifier _ := ""

/-- There are four exchanges for one question. -/
theorem not_forall_query_isBudgeted :
    ¬ ∀ (account : Account) (id : String), (account.query id).Sends fun sent _ ↦
      IsBudgeted account.isExchange (account.isQuestion id) account.tokenAttempts
        account.tokenAttempts sent := by
  intro hall
  obtain ⟨sent, hlog, hbudget⟩ :=
    hall (.mpesa twiceAccount) "ws_CO_1" refusingWorld (.start .zero)
  have hsent : sent = List.replicate 4 ⟨twiceAccount.exchangeRequest, .answered 500 ""⟩ :=
    hlog.symm.trans (query_exhausts (.mpesa twiceAccount) rfl (by decide +kernel) (by decide)
      (fun _ ↦ rfl) .zero)
  have hexchange : isExchange (.mpesa twiceAccount) twiceAccount.exchangeRequest = true := by
    simp [isExchange, Mpesa.Account.isExchange, Request.goesTo, Mpesa.Account.exchangeRequest]
  have hfew := hbudget.exchanges_le
  rw [hsent, List.countP_replicate, if_pos hexchange] at hfew
  exact absurd hfew (by decide)

end Account

end MobileMoney
