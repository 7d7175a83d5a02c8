import MobileMoney.Account
import MobileMoney.Proofs.Airtel.Initiation
import MobileMoney.Proofs.Mpesa.Initiation
import MobileMoney.Proofs.Tigo.Initiation

/-!
# Money is asked for once

Whatever the outside does, one collection or disbursement sends at most one request for money, after
token exchanges only, and is done exactly when that request has been taken on.
-/

namespace MobileMoney.Account

/-- The request that gives a token, on the rails that know tokens. -/
def exchangeRequest? : Account → Option Request
  | mpesa account => some account.exchangeRequest
  | airtel account => some account.exchangeRequest
  | tigo _ => none

/-- How often the exchange request may be sent in one call. -/
def tokenAttempts : Account → Nat
  | mpesa account => account.tokenAttempts
  | airtel account => account.tokenAttempts
  | tigo _ => 0

def collectionUrl : Account → String
  | mpesa account => account.promptUrl
  | airtel account => account.collectionUrl
  | tigo account => account.endpoint

def disbursementUrl? : Account → Option String
  | mpesa account => some account.payoutUrl
  | airtel account => some account.disbursementUrl
  | tigo _ => none

/-- Whether an answer takes a collection on. -/
def acceptsCollection : Account → String → Bool
  | mpesa _ => Mpesa.acceptsPrompt
  | airtel _ => Airtel.acceptsCollection
  | tigo _ => Tigo.acceptsCollection

/-- Whether an answer takes a disbursement on. -/
def acceptsDisbursement : Account → String → Bool
  | mpesa _ => Mpesa.acceptsPayout
  | airtel _ => Airtel.acceptsDisbursement
  | tigo _ => fun _ ↦ false

/-- What keeps a disbursement from being sent. -/
def RefusesDisbursement : Account → DisbursementRequest → Prop
  | mpesa account => account.RefusesPayout
  | airtel account => account.RefusesDisbursement
  | tigo _ => fun _ ↦ True

variable (account : Account)

theorem collect_sends (request : CollectionRequest) :
    (account.collect request).Sends
      (Initiates account.exchangeRequest? (IsPostTo (some account.collectionUrl))
        account.tokenAttempts (IsTakenOn account.acceptsCollection) IsPending) := by
  cases account with
  | mpesa account => exact account.collect_sends request
  | airtel account => exact account.collect_sends request
  | tigo account => exact account.collect_sends request

theorem disburse_sends (request : DisbursementRequest) :
    (account.disburse request).Sends
      (Initiates account.exchangeRequest? (IsPostTo account.disbursementUrl?)
        account.tokenAttempts (IsTakenOn account.acceptsDisbursement) IsPending) := by
  cases account with
  | mpesa account => exact account.disburse_sends request
  | airtel account => exact account.disburse_sends request
  | tigo account =>
    exact fun _ _ ↦ ⟨[], (List.append_nil _).symm, .stopped (by simp) (Nat.le_refl 0) nofun⟩

theorem collect_refused {request : CollectionRequest} {error : PaymentError}
    (h : account.prepareCollection request = .error error) (world : World) (session : Session) :
    account.collect request world session = (.failed error, session) := by
  cases account with
  | mpesa account => exact Call.ofExcept_refused h _ world session
  | airtel account => exact Call.ofExcept_refused h _ world session
  | tigo account => exact Call.ofExcept_refused h _ world session

theorem disburse_refused {request : DisbursementRequest} (h : account.RefusesDisbursement request)
    (world : World) (session : Session) :
    ∃ error, account.disburse request world session = (.failed error, session) := by
  cases account with
  | mpesa account => exact Mpesa.Account.disburse_refused h world session
  | airtel account => exact Airtel.Account.disburse_refused h world session
  | tigo account => exact ⟨_, rfl⟩

/-- An exchange of tokens asks for no money. -/
theorem not_isPostTo_of_exchangeRequest? {request : Request}
    (h : account.exchangeRequest? = some request) :
    ¬ IsPostTo (some account.collectionUrl) request ∧
      ¬ IsPostTo account.disbursementUrl? request := by
  cases account with
  | mpesa account =>
    obtain rfl := Option.some.inj h
    exact ⟨Mpesa.Account.not_isPostTo_exchangeRequest _,
      Mpesa.Account.not_isPostTo_exchangeRequest _⟩
  | airtel account =>
    obtain rfl := Option.some.inj h
    exact ⟨Airtel.Account.not_isPostTo_exchangeRequest (by decide),
      Airtel.Account.not_isPostTo_exchangeRequest (by decide)⟩
  | tigo account => nomatch h

/-- **Money is asked for once.**  One collection and one disbursement send token exchanges, no more
than the policy has attempts, and after them at most one request for money.  They are done exactly
when that request has been answered with a success that takes it on, and the payment is then
pending.  What is refused beforehand changes nothing. -/
theorem asks_for_money_once :
    (∀ request, account.exchangeRequest? = some request →
      ¬ IsPostTo (some account.collectionUrl) request ∧
        ¬ IsPostTo account.disbursementUrl? request) ∧
    (∀ request, (account.collect request).Sends
      (Initiates account.exchangeRequest? (IsPostTo (some account.collectionUrl))
        account.tokenAttempts (IsTakenOn account.acceptsCollection) IsPending)) ∧
    (∀ request, (account.disburse request).Sends
      (Initiates account.exchangeRequest? (IsPostTo account.disbursementUrl?)
        account.tokenAttempts (IsTakenOn account.acceptsDisbursement) IsPending)) ∧
    (∀ request error, account.prepareCollection request = .error error → ∀ world session,
      account.collect request world session = (.failed error, session)) ∧
    (∀ request, account.RefusesDisbursement request → ∀ world session,
      ∃ error, account.disburse request world session = (.failed error, session)) :=
  ⟨fun _ ↦ account.not_isPostTo_of_exchangeRequest?, account.collect_sends,
    account.disburse_sends, fun _ _ ↦ account.collect_refused,
    fun _ ↦ account.disburse_refused⟩

end MobileMoney.Account
