import MobileMoney.Proofs.Account.RetryBudget
import MobileMoney.Proofs.Callback.Reading
import MobileMoney.Proofs.Session.Question

/-!
# What a question is told

The status of a payment is what the last reply to the question says, whatever else has happened in
between.  Only a success that states a result code ends the payment; while M-Pesa still processes
it, the payment is pending.
-/

namespace MobileMoney

open Call

/-! ## Replies -/

/-- The response that a reply with a status and a body gives to the question about a payment. -/
def Provider.answerTo (id : String) (status : Nat) (body : String) :
    Provider → Except PaymentError StatusResponse
  | mpesa => Mpesa.Account.queryResponse id ⟨.mpesa, status, body⟩
  | airtelMoney => do
    let reply ← Reply.checked ⟨.airtelMoney, status, body⟩
    Airtel.Account.queryResponse id reply
  | tigoPesa => throw (.unsupported .tigoPesa "status query")

/-- The result code that the body of a reply states, trimmed. -/
def Provider.statedResult? (body : String) : Provider → Option String
  | mpesa => (Json.document? body).bind (·.scalarAt? ["ResultCode"])
  | airtelMoney => (Json.document? body).bind (·.scalarAt? ["data", "transaction", "status"])
  | tigoPesa => none

/-- The status of a payment with a result code. -/
def Provider.statusOfResult (code : String) : Provider → PaymentStatus
  | mpesa => Mpesa.statusOfCode code
  | airtelMoney => Airtel.statusOfCode code
  | tigoPesa => .pending

/-- A success whose body states the result code of a response, and with it the status. -/
structure StatesResult (provider : Provider) (status : Nat) (body : String)
    (response : StatusResponse) : Prop where
  success : 200 ≤ status ∧ status < 300
  code : ∃ code, provider.statedResult? body = some code ∧ IsTrimmed code ∧
    response.resultCode = some code ∧ provider.statusOfResult code = response.status

/-- A reply of M-Pesa that is no success because it still processes the payment. -/
structure IsStillProcessing (provider : Provider) (status : Nat) (body : String) : Prop where
  provider_eq : provider = .mpesa
  no_success : ¬ (200 ≤ status ∧ status < 300)
  code : (ErrorDetails.ofBody body).code = some "500.001.1001"

namespace Mpesa.Account

variable (account : Account)

theorem statesResult_of_queryResponse {id body : String} {status : Nat} {response : StatusResponse}
    (h : queryResponse id ⟨.mpesa, status, body⟩ = .ok response)
    (hterminal : response.status.isTerminal = true) : StatesResult .mpesa status body response := by
  by_cases hsuccess : (⟨.mpesa, status, body⟩ : Reply).isSuccess = true
  · simp only [queryResponse, hsuccess, if_true, bind_eq_ok, pure_eq_ok, Reply.document_eq_ok] at h
    obtain ⟨document, hdocument, rfl⟩ := h
    have hstated : Provider.mpesa.statedResult? body = document.scalarAt? ["ResultCode"] := by
      rw [Provider.statedResult?, hdocument, Option.bind_some]
    cases hcode : document.scalarAt? ["ResultCode"] with
    | none =>
      rw [hcode] at hterminal
      contradiction
    | some code =>
      exact ⟨Reply.isSuccess_iff.mp hsuccess, code, hstated.trans hcode,
        Json.isTrimmed_of_scalarAt? hcode, rfl, rfl⟩
  · rw [queryResponse, if_neg hsuccess] at h
    dsimp only at h
    split at h
    · rw [← pure_eq_ok.mp h] at hterminal
      contradiction
    · exact absurd h throw_ne_ok

theorem queryResponse_stillProcessing (id : String) {status : Nat} {body : String}
    (h : IsStillProcessing .mpesa status body) :
    ∃ response, queryResponse id ⟨.mpesa, status, body⟩ = .ok response ∧
      response.status = .pending := by
  have hsuccess : ¬ (⟨.mpesa, status, body⟩ : Reply).isSuccess = true :=
    mt Reply.isSuccess_iff.mp h.no_success
  rw [queryResponse, if_neg hsuccess]
  exact ⟨_, if_pos h.code, rfl⟩

theorem queryOnce_asks (id : String) :
    (account.queryOnce id).Sends
      (Asks account.isQuestion fun status body ↦ Provider.mpesa.answerTo id status body) := by
  apply asks_after (Call.isSilent_readClock.mono fun sent _ hsent ↦ by simp [hsent])
  intro now
  have hpost (body : Json) : (account.post "/mpesa/stkpushquery/v1/query" body).Sends
      (Asks account.isQuestion fun status body ↦ .ok ⟨.mpesa, status, body⟩) := by
    apply accessToken_bind_asks account.policy account.tokenKey account.isQuestion_exchangeRequest
    intro token
    exact sendAuthorized_asks account.tokenKey (account.isQuestion_postRequest body token)
  exact asks_checked (hpost _) (queryResponse id)

theorem query_restsOn (id : String) :
    (account.query id).Sends
      (RestsOn account.isQuestion fun status body ↦ Provider.mpesa.answerTo id status body) := by
  unfold query
  by_cases hblank : Text.isBlankText id
  · rw [if_pos hblank]
    exact Call.throw_restsOn _
  · rw [if_neg hblank]
    exact Call.retried_restsOn account.policy (account.queryOnce_asks id)

end Mpesa.Account

namespace Airtel.Account

variable (account : Account)

theorem statesResult_of_queryResponse {id body : String} {status : Nat} {response : StatusResponse}
    (h : Provider.airtelMoney.answerTo id status body = .ok response)
    (hterminal : response.status.isTerminal = true) :
    StatesResult .airtelMoney status body response := by
  simp only [Provider.answerTo, queryResponse, bind_eq_ok, pure_eq_ok, Reply.checked_eq_ok,
    Reply.document_eq_ok] at h
  obtain ⟨reply, ⟨hsuccess, rfl⟩, document, hdocument, rfl⟩ := h
  have hstated : Provider.airtelMoney.statedResult? body =
      document.scalarAt? ["data", "transaction", "status"] := by
    rw [Provider.statedResult?, hdocument, Option.bind_some]
  cases hcode : document.scalarAt? ["data", "transaction", "status"] with
  | none =>
    have hpending : Airtel.statusOfCode (document.scalarAt? (transactionPath ++ ["status"])) =
        .pending := congrArg Airtel.statusOfCode hcode
    rw [hpending] at hterminal
    contradiction
  | some code =>
    exact ⟨Reply.isSuccess_iff.mp hsuccess, code, hstated.trans hcode,
      Json.isTrimmed_of_scalarAt? hcode, hcode, congrArg Airtel.statusOfCode hcode.symm⟩

theorem queryOnce_asks (id : String) :
    (account.queryOnce id).Sends (Asks (account.isQuestion id)
      fun status body ↦ Provider.airtelMoney.answerTo id status body) := by
  have hsend : (account.send (account.getRequest ("/standard/v1/payments/" ++ id))).Sends
      (Asks (account.isQuestion id)
        fun status body ↦ Reply.checked ⟨.airtelMoney, status, body⟩) := by
    apply accessToken_bind_asks account.policy account.tokenKey
      (account.isQuestion_exchangeRequest id)
    intro token
    have hasks := sendAuthorized_asks account.tokenKey (account.isQuestion_getRequest id token)
    exact asks_checked hasks Reply.checked
  exact asks_checked hsend (queryResponse id)

theorem query_restsOn (id : String) :
    (account.query id).Sends (RestsOn (account.isQuestion id)
      fun status body ↦ Provider.airtelMoney.answerTo id status body) := by
  unfold query
  by_cases hblank : Text.isBlankText id
  · rw [if_pos hblank]
    exact Call.throw_restsOn _
  · rw [if_neg hblank]
    exact Call.retried_restsOn account.policy (account.queryOnce_asks id)

end Airtel.Account

/-! ## All rails -/

theorem Provider.statesResult_of_answerTo {provider : Provider} {id body : String} {status : Nat}
    {response : StatusResponse} (h : provider.answerTo id status body = .ok response)
    (hterminal : response.status.isTerminal = true) :
    StatesResult provider status body response := by
  cases provider with
  | mpesa => exact Mpesa.Account.statesResult_of_queryResponse h hterminal
  | airtelMoney => exact Airtel.Account.statesResult_of_queryResponse h hterminal
  | tigoPesa => exact absurd h throw_ne_ok

theorem Provider.answerTo_stillProcessing {provider : Provider} {body : String} {status : Nat}
    (h : IsStillProcessing provider status body) (id : String) :
    ∃ response, provider.answerTo id status body = .ok response ∧ response.status = .pending := by
  obtain rfl := h.provider_eq
  exact Mpesa.Account.queryResponse_stillProcessing id h

namespace Account

theorem query_restsOn (account : Account) (id : String) :
    (account.query id).Sends (RestsOn (account.isQuestion id)
      fun status body ↦ account.provider.answerTo id status body) := by
  cases account with
  | mpesa account => exact account.query_restsOn id
  | airtel account => exact account.query_restsOn id
  | tigo account => exact Call.throw_restsOn _

/-- **What a question is told.** A question about a payment is answered by its last request, which
is a question and has a reply: the response depends on the identifier and on that reply alone, and
where the response is terminal the reply is a success that states its result.  A reply of M-Pesa
that it still processes the payment ends the question, with a pending payment. -/
theorem query_invents_nothing (account : Account) (id : String) :
    (account.query id).Sends fun sent outcome ↦
      (∀ response, outcome = .done response → ∃ earlier request status body,
        sent = earlier ++ [⟨request, .answered status body⟩] ∧
        account.isQuestion id request = true ∧
        account.provider.answerTo id status body = .ok response ∧
        (response.status.isTerminal = true →
          StatesResult account.provider status body response)) ∧
      ∀ earlier request status body later,
        sent = earlier ++ ⟨request, .answered status body⟩ :: later →
        account.isQuestion id request = true → IsStillProcessing account.provider status body →
        later = [] ∧ ∃ response, outcome = .done response ∧ response.status = .pending := by
  apply (account.query_restsOn id).mono
  intro sent outcome hrests
  constructor
  · intro response hdone
    obtain ⟨earlier, request, status, body, hsent, hquestion, hanswer⟩ := hrests.done response hdone
    exact ⟨earlier, request, status, body, hsent, hquestion, hanswer,
      Provider.statesResult_of_answerTo hanswer⟩
  · intro earlier request status body later hsent hquestion hprocessing
    obtain ⟨response, hanswer, hpending⟩ := Provider.answerTo_stillProcessing hprocessing id
    have hfinal : IsFinal (account.provider.answerTo id status body) := by
      intro error herror
      rw [hanswer] at herror
      contradiction
    obtain ⟨hlast, houtcome⟩ :=
      hrests.final earlier request status body later hsent hquestion hfinal
    exact ⟨hlast, response, houtcome.trans (Outcome.ofExcept_eq_done.mpr hanswer), hpending⟩

end Account

end MobileMoney
