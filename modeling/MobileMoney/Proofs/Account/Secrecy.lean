import MobileMoney.Proofs.Account.Redaction
import MobileMoney.Proofs.Account.TokenDiscipline

/-!
# Secrets stay out of results

What is asked of two accounts that differ in the values of their secrets only comes to the same
results, operation by operation, in every world that does not look into requests.  The requests go
to the same addresses, and the same number of tokens is kept.
-/

namespace MobileMoney

open Call

/-! ## Runs -/

def Operation.redacted : Operation → Operation
  | collect request => .collect request
  | disburse request => .disburse request.redacted
  | query id => .query id

/-- What an operation comes to. -/
inductive OperationResult where
  | payment (outcome : Outcome PaymentResponse)
  | status (outcome : Outcome StatusResponse)

/-- What is seen after an operation: its result, the targets of all requests so far, and how many
tokens are kept. -/
structure Observation where
  result : OperationResult
  targets : List (Method × String)
  cached : Nat

namespace Account

def redacted : Account → Account
  | mpesa account => mpesa account.redacted
  | airtel account => airtel account.redacted
  | tigo account => tigo account.redacted

def result (account : Account) (world : World) (session : Session) : Operation → OperationResult
  | .collect request => .payment (account.collect request world session).1
  | .disburse request => .payment (account.disburse request world session).1
  | .query id => .status (account.query id world session).1

/-- What is seen of a run, operation by operation. -/
def observe (account : Account) (world : World) : Session → List Operation → List Observation
  | _, [] => []
  | session, operation :: rest =>
    let after := account.perform world session operation
    ⟨account.result world session operation, after.requests.map Request.target,
      after.tokens.size⟩ :: account.observe world after rest

/-- Whatever is asked of two accounts, they look alike. -/
structure CallsLookLike (world : World) (account other : Account) : Prop where
  collect : ∀ request, LooksLike world (account.collect request) (other.collect request)
  disburse : ∀ request request', request.redacted = request'.redacted →
    LooksLike world (account.disburse request) (other.disburse request')
  query : ∀ id, LooksLike world (account.query id) (other.query id)

variable {account other : Account} {world : World}

theorem callsLookLike (h : account.redacted = other.redacted) (hworld : world.IsBlind) :
    CallsLookLike world account other := by
  cases account with
  | mpesa account =>
    cases other with
    | mpesa other =>
      have hsame := mpesa.inj h
      exact ⟨Mpesa.Account.collect_looksLike hsame hworld,
        fun _ _ ↦ Mpesa.Account.disburse_looksLike hsame hworld,
        Mpesa.Account.query_looksLike hsame hworld⟩
    | airtel other => exact nomatch h
    | tigo other => exact nomatch h
  | airtel account =>
    cases other with
    | airtel other =>
      have hsame := airtel.inj h
      exact ⟨Airtel.Account.collect_looksLike hsame hworld,
        fun _ _ ↦ Airtel.Account.disburse_looksLike hsame hworld,
        Airtel.Account.query_looksLike hsame hworld⟩
    | mpesa other => exact nomatch h
    | tigo other => exact nomatch h
  | tigo account =>
    cases other with
    | tigo other =>
      exact ⟨Tigo.Account.collect_looksLike (tigo.inj h) hworld,
        fun _ _ _ ↦ looksLike_throw _, fun _ ↦ looksLike_throw _⟩
    | mpesa other => exact nomatch h
    | airtel other => exact nomatch h

/-- One operation: alike results, and sessions that are seen in the same way. -/
theorem CallsLookLike.perform (h : CallsLookLike world account other)
    {operation operation' : Operation} (hoperation : operation.redacted = operation'.redacted)
    {session session' : Session} (hview : session.view = session'.view) :
    account.result world session operation = other.result world session' operation' ∧
      (account.perform world session operation).view =
        (other.perform world session' operation').view := by
  cases operation with
  | collect request =>
    cases operation' with
    | collect request' =>
      obtain rfl := Operation.collect.inj hoperation
      exact (h.collect request session session' hview).imp_left (congrArg OperationResult.payment)
    | disburse request' => exact nomatch hoperation
    | query id' => exact nomatch hoperation
  | disburse request =>
    cases operation' with
    | disburse request' =>
      have hrequest := Operation.disburse.inj hoperation
      exact (h.disburse request request' hrequest session session' hview).imp_left
        (congrArg OperationResult.payment)
    | collect request' => exact nomatch hoperation
    | query id' => exact nomatch hoperation
  | query id =>
    cases operation' with
    | query id' =>
      obtain rfl := Operation.query.inj hoperation
      exact (h.query id session session' hview).imp_left (congrArg OperationResult.status)
    | collect request' => exact nomatch hoperation
    | disburse request' => exact nomatch hoperation

theorem CallsLookLike.observe (h : CallsLookLike world account other)
    {operations others : List Operation}
    (hoperations : operations.map Operation.redacted = others.map Operation.redacted)
    {session session' : Session} (hview : session.view = session'.view) :
    account.observe world session operations = other.observe world session' others := by
  induction operations generalizing others session session' with
  | nil =>
    obtain rfl := List.map_eq_nil_iff.mp hoperations.symm
    rfl
  | cons operation rest ih =>
    obtain ⟨operation', rest', rfl, hoperation, hrest⟩ := List.map_eq_cons_iff.mp hoperations.symm
    obtain ⟨hresult, hafter⟩ := h.perform hoperation.symm hview
    have htargets := congrArg (fun view ↦ view.trace.map Prod.fst) hafter
    rw [← Session.map_target_requests, ← Session.map_target_requests] at htargets
    have hcached := congrArg (fun view ↦ view.tokens.size) hafter
    have hhead : (⟨account.result world session operation,
          (account.perform world session operation).requests.map Request.target,
          (account.perform world session operation).tokens.size⟩ : Observation) =
        ⟨other.result world session' operation',
          (other.perform world session' operation').requests.map Request.target,
          (other.perform world session' operation').tokens.size⟩ :=
      Observation.mk.injEq .. ▸ ⟨hresult, htargets, hcached⟩
    exact congrArg₂ List.cons hhead (ih hrest.symm hafter)

/-- **Secrets stay out of results.**  Two accounts that differ in the values of their secrets only,
and that are asked for the same but for the values of credentials, are seen in the same way
operation by operation: results, methods and addresses of requests, and the number of tokens that
are kept. -/
theorem secrets_do_not_flow (h : account.redacted = other.redacted)
    {operations others : List Operation}
    (hoperations : operations.map Operation.redacted = others.map Operation.redacted)
    (hworld : world.IsBlind) (session : Session) :
    account.observe world session operations = other.observe world session others :=
  (callsLookLike h hworld).observe hoperations rfl

/-- An M-Pesa account that uses one text for all its secrets. -/
def accountWith (secret : String) : Mpesa.Account where
  config := {
    consumerKey := "consumer-key"
    consumerSecret := secret
    shortCode := "174379"
    passkey := secret
    callbackUrl := "https://example.com/cb"
    payoutShortCode := none
    initiatorName := some "initiator"
    securityCredential := some secret
    resultUrl := some "https://example.com/result"
    timeoutUrl := none
    callbackSecret := none
    environment := .sandbox
    givenUrl := none }
  policy := .standard

/-- A collection, a disbursement with a credential of its own, and a question. -/
def operationsWith (amount : Money) (credential : String) : List Operation :=
  [.collect ⟨amount, "0712345678", "RENT-01", none⟩,
    .disburse ⟨amount, "0712345678", "RENT-01", "Refund", none, .business, none, some credential⟩,
    .query "ws_CO_1"]

/-- A token, and then nothing but internal errors. -/
def scriptedWorld : World :=
  .scripted (fun count ↦
    if count = 1 then .answered 200 "\x7b\"access_token\":\"token\",\"expires_in\":3600\x7d"
    else .answered 500 "") (fun _ ↦ ⟨1700000120, 0, by decide⟩) fun _ ↦ ""

/-- Other secrets, and another credential in the request, are not noticed. -/
theorem secrets_do_not_flow_mpesa :
    (accountWith "one").config ≠ (accountWith "two").config ∧
      (mpesa (accountWith "one")).observe scriptedWorld (.start .zero)
          (operationsWith ⟨50000, ⟨"KES", by decide⟩, by decide⟩ "pin") =
        (mpesa (accountWith "two")).observe scriptedWorld (.start .zero)
          (operationsWith ⟨50000, ⟨"KES", by decide⟩, by decide⟩ "nip") := by
  have haccounts : redacted (mpesa (accountWith "one")) = redacted (mpesa (accountWith "two")) :=
    rfl
  have hoperations (amount : Money) : (operationsWith amount "pin").map Operation.redacted =
      (operationsWith amount "nip").map Operation.redacted := rfl
  have hworld : scriptedWorld.IsBlind := World.isBlind_scripted _ _ _
  exact ⟨by decide, secrets_do_not_flow haccounts (hoperations _) hworld _⟩

end Account

end MobileMoney
