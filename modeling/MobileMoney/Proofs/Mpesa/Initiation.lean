import MobileMoney.Mpesa.Account
import MobileMoney.Proofs.Session.Initiation

/-!
# M-Pesa initiations

A prompt and a disbursement are sent once, after a token, and taken on with response code `0`.
-/

namespace MobileMoney.Mpesa

/-- Whether an answer is a record with response code `0`. -/
def hasAcceptedCode {α : Type} (read : Json → Option α) (code : α → String) (body : String) :
    Bool :=
  ((Json.parse? body.toList).bind read).any (code · = "0")

/-- Whether an answer takes a prompt on. -/
def acceptsPrompt : String → Bool :=
  hasAcceptedCode PromptReply.read? PromptReply.code

/-- Whether an answer takes a disbursement on. -/
def acceptsPayout : String → Bool :=
  hasAcceptedCode PayoutReply.read? PayoutReply.code

theorem isTakenOn_hasAcceptedCode_iff {α : Type} {read : Json → Option α} {code : α → String}
    {reply : Reply} :
    IsTakenOn (hasAcceptedCode read code) reply.status reply.body ↔
      reply.isSuccess = true ∧
        ∃ answer, (Json.parse? reply.body.toList).bind read = some answer ∧
          code answer = acceptedCode := by
  rw [Reply.isSuccess_iff]
  constructor
  · intro htaken
    rcases (Option.any_eq_true _ _).mp htaken.accepted with ⟨answer, hanswer, hcode⟩
    exact ⟨⟨htaken.least, htaken.most⟩, answer, hanswer, of_decide_eq_true hcode⟩
  · intro hfound
    rcases hfound with ⟨⟨hleast, hmost⟩, answer, hanswer, hcode⟩
    refine ⟨hleast, hmost, (Option.any_eq_true _ _).mpr ?_⟩
    exact ⟨answer, hanswer, decide_eq_true hcode⟩

namespace Account

def promptUrl (account : Account) : String :=
  account.config.baseUrl ++ "/mpesa/stkpush/v1/processrequest"

def payoutUrl (account : Account) : String :=
  account.config.baseUrl ++ "/mpesa/b2c/v1/paymentrequest"

/-- How often the exchange request may be sent in one call. -/
def tokenAttempts (account : Account) : Nat :=
  max 1 account.policy.maxAttempts

/-- What keeps a disbursement from being sent. -/
def RefusesPayout (account : Account) (request : DisbursementRequest) : Prop :=
  (∃ error, rules.prepareDisbursement remarksLength request = .error error) ∨
    request.initiatorName.or account.config.initiatorName = none ∨
    request.securityCredential.or account.config.securityCredential = none ∨
    account.config.resultUrl = none

variable {account : Account}

theorem post_sends (path : String) (body : Json) :
    (account.post path body).Sends
      (Initiates (some account.exchangeRequest) (IsPostTo (some (account.config.baseUrl ++ path)))
        account.tokenAttempts IsAnyAnswer IsReply) := by
  apply initiates_authorized (Call.accessToken_sends _ _ _)
  intro token
  exact initiates_submit (Call.sendAuthorized_sends _ _) ⟨rfl, rfl⟩

theorem promptResponse_pending {prepared : PreparedCollection} {reply : Reply}
    {response : PaymentResponse} (h : promptResponse prepared reply = .ok response) :
    response.status = .pending := by
  simp only [promptResponse, bind_eq_ok, ite_throw_eq_ok, pure_eq_ok] at h
  obtain ⟨_, -, answer, -, -, rfl⟩ := h
  rfl

theorem exists_promptResponse_iff {prepared : PreparedCollection} {reply : Reply} :
    (∃ response, promptResponse prepared reply = .ok response) ↔
      IsTakenOn acceptsPrompt reply.status reply.body := by
  rw [acceptsPrompt, isTakenOn_hasAcceptedCode_iff]
  simp only [promptResponse, bind_eq_ok, ite_throw_eq_ok, pure_eq_ok, Reply.checked_eq_ok,
    Reply.record_eq_ok, Decidable.not_not]
  constructor
  · intro hfound
    rcases hfound with ⟨response, _, ⟨hsuccess, rfl⟩, answer, hanswer, hcode, -⟩
    exact ⟨hsuccess, answer, hanswer, hcode⟩
  · intro hfound
    rcases hfound with ⟨hsuccess, answer, hanswer, hcode⟩
    exact ⟨_, reply, ⟨hsuccess, rfl⟩, answer, hanswer, hcode, rfl⟩

theorem collect_sends (request : CollectionRequest) :
    (account.collect request).Sends
      (Initiates (some account.exchangeRequest) (IsPostTo (some account.promptUrl))
        account.tokenAttempts (IsTakenOn acceptsPrompt) IsPending) := by
  apply initiates_after (Call.isSilent_ofExcept _)
  intro prepared
  apply initiates_after Call.isSilent_readClock
  intro now
  apply initiates_checked (account.post_sends _ _) (fun _ _ _ ↦ trivial)
  · intro status body reply _ hreply
    rcases hreply with ⟨rfl, rfl⟩
    exact exists_promptResponse_iff
  · intro _ _ reply response _ h
    exact promptResponse_pending h

theorem payoutResponse_pending {prepared : PreparedDisbursement} {reply : Reply}
    {response : PaymentResponse} (h : payoutResponse prepared reply = .ok response) :
    response.status = .pending := by
  simp only [payoutResponse, bind_eq_ok, ite_throw_eq_ok, pure_eq_ok] at h
  obtain ⟨_, -, answer, -, -, rfl⟩ := h
  rfl

theorem exists_payoutResponse_iff {prepared : PreparedDisbursement} {reply : Reply} :
    (∃ response, payoutResponse prepared reply = .ok response) ↔
      IsTakenOn acceptsPayout reply.status reply.body := by
  rw [acceptsPayout, isTakenOn_hasAcceptedCode_iff]
  simp only [payoutResponse, bind_eq_ok, ite_throw_eq_ok, pure_eq_ok, Reply.checked_eq_ok,
    Reply.record_eq_ok, Decidable.not_not]
  constructor
  · intro hfound
    rcases hfound with ⟨response, _, ⟨hsuccess, rfl⟩, answer, hanswer, hcode, -⟩
    exact ⟨hsuccess, answer, hanswer, hcode⟩
  · intro hfound
    rcases hfound with ⟨hsuccess, answer, hanswer, hcode⟩
    exact ⟨_, reply, ⟨hsuccess, rfl⟩, answer, hanswer, hcode, rfl⟩

theorem disburse_sends (request : DisbursementRequest) :
    (account.disburse request).Sends
      (Initiates (some account.exchangeRequest) (IsPostTo (some account.payoutUrl))
        account.tokenAttempts (IsTakenOn acceptsPayout) IsPending) := by
  apply initiates_after (Call.isSilent_ofExcept _)
  intro prepared
  apply initiates_after (Call.isSilent_ofExcept _)
  intro terms
  apply initiates_after Call.isSilent_drawIdentifier
  intro identifier
  apply initiates_checked (account.post_sends _ _) (fun _ _ _ ↦ trivial)
  · intro status body reply _ hreply
    rcases hreply with ⟨rfl, rfl⟩
    exact exists_payoutResponse_iff
  · intro _ _ reply response _ h
    exact payoutResponse_pending h

theorem payoutTerms_eq_error {request : DisbursementRequest}
    (h : request.initiatorName.or account.config.initiatorName = none ∨
      request.securityCredential.or account.config.securityCredential = none ∨
      account.config.resultUrl = none) : ∃ error, account.payoutTerms request = .error error := by
  cases hterms : account.payoutTerms request with
  | error error => exact ⟨error, rfl⟩
  | ok terms =>
    simp only [payoutTerms, bind_eq_ok] at hterms
    obtain ⟨initiator, hinitiator, credential, hcredential, url, hurl, -⟩ := hterms
    obtain hnone | hnone | hnone := h <;> simp [hnone, demand] at hinitiator hcredential hurl

theorem disburse_refused {request : DisbursementRequest} (h : account.RefusesPayout request)
    (world : World) (session : Session) :
    ∃ error, account.disburse request world session = (.failed error, session) :=
  Call.ofExcept_ofExcept_refused (h.imp_right payoutTerms_eq_error) _ world session

/-- An exchange request is no request for money. -/
theorem not_isPostTo_exchangeRequest (url? : Option String) :
    ¬ IsPostTo url? account.exchangeRequest :=
  fun h ↦ nomatch h.1

end Account

end MobileMoney.Mpesa
