import MobileMoney.Airtel.Account
import MobileMoney.Proofs.Session.Initiation

/-!
# Airtel Money initiations

A collection and a disbursement are sent once, after a token.  A collection is taken on with result
code `TS`, a disbursement also when its transaction has succeeded or is under way.
-/

namespace MobileMoney.Airtel

/-- Whether an answer takes a collection on. -/
def acceptsCollection (body : String) : Bool :=
  (Json.document? body).any fun document ↦
    document.scalarAt? ["status", "result_code"] = some "TS"

/-- Whether an answer takes a disbursement on. -/
def acceptsDisbursement (body : String) : Bool :=
  (Json.document? body).any fun document ↦
    document.scalarAt? ["status", "result_code"] = some "TS" ||
      (document.scalarAt? ["data", "transaction", "status"]).any (["TS", "TIP", "TA"].contains ·)

namespace Account

def collectionUrl (account : Account) : String :=
  account.config.baseUrl ++ "/merchant/v1/payments/"

def disbursementUrl (account : Account) : String :=
  account.config.baseUrl ++ "/standard/v1/disbursements/"

/-- How often the exchange request may be sent in one call. -/
def tokenAttempts (account : Account) : Nat :=
  max 1 account.policy.maxAttempts

/-- What keeps a disbursement from being sent. -/
def RefusesDisbursement (account : Account) (request : DisbursementRequest) : Prop :=
  (∃ error, account.market.rules.prepareDisbursement Market.textLength request = .error error) ∨
    request.securityCredential.or account.config.disbursementPin = none

variable {account : Account}

theorem send_sends {request : String → Request} {asks : Request → Prop}
    (hasks : ∀ token, asks (request token)) :
    (account.send request).Sends
      (Initiates (some account.exchangeRequest) asks account.tokenAttempts
        (fun status _ ↦ 200 ≤ status ∧ status < 300) IsReply) := by
  apply initiates_authorized (Call.accessToken_sends _ _ _)
  intro token
  apply initiates_checked (initiates_submit (Call.sendAuthorized_sends _ _) (hasks token))
    (fun _ _ _ ↦ trivial)
  · intro status body reply _ hreply
    rcases hreply with ⟨rfl, rfl⟩
    simp only [Reply.checked_eq_ok, Reply.isSuccess_iff, exists_eq_right']
  · intro status body reply checked hreply h
    rw [← (Reply.checked_eq_ok.mp h).2]
    exact hreply

theorem collectionResponse_pending {prepared : PreparedCollection} {reply : Reply}
    {response : PaymentResponse} (h : collectionResponse prepared reply = .ok response) :
    response.status = .pending := by
  simp only [collectionResponse, bind_eq_ok, ite_throw_eq_ok, pure_eq_ok] at h
  obtain ⟨_, -, -, rfl⟩ := h
  rfl

theorem exists_collectionResponse_iff {prepared : PreparedCollection} {reply : Reply} :
    (∃ response, collectionResponse prepared reply = .ok response) ↔
      acceptsCollection reply.body = true := by
  rw [acceptsCollection, Option.any_eq_true]
  simp only [collectionResponse, bind_eq_ok, ite_throw_eq_ok, pure_eq_ok, Reply.document_eq_ok,
    Decidable.not_not]
  constructor
  · intro hfound
    rcases hfound with ⟨response, document, hdocument, hcode, -⟩
    exact ⟨document, hdocument, decide_eq_true hcode⟩
  · intro hfound
    rcases hfound with ⟨document, hdocument, hcode⟩
    exact ⟨_, document, hdocument, of_decide_eq_true hcode, rfl⟩

theorem collect_sends (request : CollectionRequest) :
    (account.collect request).Sends
      (Initiates (some account.exchangeRequest) (IsPostTo (some account.collectionUrl))
        account.tokenAttempts (IsTakenOn acceptsCollection) IsPending) := by
  apply initiates_after (Call.isSilent_ofExcept _)
  intro prepared
  apply initiates_checked (account.send_sends fun _ ↦ ⟨rfl, rfl⟩)
  · exact fun _ _ h ↦ ⟨h.least, h.most⟩
  · intro status body reply hsuccess hreply
    rcases hreply with ⟨rfl, rfl⟩
    rw [exists_collectionResponse_iff]
    exact ⟨fun h ↦ ⟨hsuccess.1, hsuccess.2, h⟩, fun h ↦ h.accepted⟩
  · intro _ _ reply response _ h
    exact collectionResponse_pending h

theorem acceptsDisbursement_iff {body : String} :
    acceptsDisbursement body = true ↔
      ∃ document, Json.document? body = some document ∧ isAccepted document = true := by
  have hopen : ∀ status : String, (["TS", "TIP", "TA"].contains status) =
      (decide (status = succeededCode) || openCodes.contains status) := by
    intro status
    rw [List.contains_cons]
    rfl
  rw [acceptsDisbursement, Option.any_eq_true]
  simp only [hopen]
  rfl

theorem disbursementResponse_pending {prepared : PreparedDisbursement} {reply : Reply}
    {response : PaymentResponse} (h : disbursementResponse prepared reply = .ok response) :
    response.status = .pending := by
  simp only [disbursementResponse, bind_eq_ok, ite_throw_eq_ok, pure_eq_ok] at h
  obtain ⟨_, -, -, rfl⟩ := h
  rfl

theorem exists_disbursementResponse_iff {prepared : PreparedDisbursement} {reply : Reply} :
    (∃ response, disbursementResponse prepared reply = .ok response) ↔
      acceptsDisbursement reply.body = true := by
  rw [acceptsDisbursement_iff]
  simp only [disbursementResponse, bind_eq_ok, ite_throw_eq_ok, pure_eq_ok, Reply.document_eq_ok,
    Bool.not_eq_true', Bool.not_eq_false]
  constructor
  · intro hfound
    rcases hfound with ⟨response, document, hdocument, haccepted, -⟩
    exact ⟨document, hdocument, haccepted⟩
  · intro hfound
    rcases hfound with ⟨document, hdocument, haccepted⟩
    exact ⟨_, document, hdocument, haccepted, rfl⟩

theorem disburse_sends (request : DisbursementRequest) :
    (account.disburse request).Sends
      (Initiates (some account.exchangeRequest) (IsPostTo (some account.disbursementUrl))
        account.tokenAttempts (IsTakenOn acceptsDisbursement) IsPending) := by
  apply initiates_after (Call.isSilent_ofExcept _)
  intro prepared
  apply initiates_after (Call.isSilent_ofExcept _)
  intro pin
  apply initiates_checked (account.send_sends fun _ ↦ ⟨rfl, rfl⟩)
  · exact fun _ _ h ↦ ⟨h.least, h.most⟩
  · intro status body reply hsuccess hreply
    rcases hreply with ⟨rfl, rfl⟩
    rw [exists_disbursementResponse_iff]
    exact ⟨fun h ↦ ⟨hsuccess.1, hsuccess.2, h⟩, fun h ↦ h.accepted⟩
  · intro _ _ reply response _ h
    exact disbursementResponse_pending h

theorem pin_eq_error {request : DisbursementRequest}
    (h : request.securityCredential.or account.config.disbursementPin = none) :
    ∃ error, account.pin request = .error error :=
  ⟨.invalid .airtelMoney "disbursement PIN is not configured" "security_credential",
    by simp only [pin, h]⟩

theorem disburse_refused {request : DisbursementRequest} (h : account.RefusesDisbursement request)
    (world : World) (session : Session) :
    ∃ error, account.disburse request world session = (.failed error, session) :=
  Call.ofExcept_ofExcept_refused (h.imp_right pin_eq_error) _ world session

/-- An exchange request goes to another URL than the requests for money. -/
theorem not_isPostTo_exchangeRequest {path : String} (h : "/auth/oauth2/token" ≠ path) :
    ¬ IsPostTo (some (account.config.baseUrl ++ path)) account.exchangeRequest := by
  intro hpost
  exact h ((String.append_right_inj _).mp (Option.some.inj hpost.2).symm)

end Account

end MobileMoney.Airtel
