import MobileMoney.Airtel.Account
import MobileMoney.Proofs.Json.Scalar
import MobileMoney.Proofs.Session.Answer

/-!
# Airtel Money responses

The response to a collection has the trimmed identifier of the answer, or the reference that was
sent where the answer has none.
-/

namespace MobileMoney.Airtel

/-- The text of the identifier in an answer, unless it is blank. -/
def replyId? (body : String) : Option String :=
  ((Json.document? body).bind (·.leafTextAt? (transactionPath ++ ["id"]))).filter
    (!Text.isBlankText ·)

/-- The identifier that a request sends. -/
def sentReference? (asked : Request) : Option String :=
  match asked.body with
  | .json document => document.leafTextAt? ["transaction", "id"]
  | _ => none

namespace Account

variable {account : Account}

theorem sentReference?_postRequest (path : String) (prepared : PreparedCollection)
    (token : String) :
    sentReference? (account.postRequest path (account.collectionBody prepared) token) =
      some prepared.reference := rfl

theorem collectionResponse_ids {prepared : PreparedCollection} {reply : Reply}
    {response : PaymentResponse} (h : collectionResponse prepared reply = .ok response) :
    response.providerReference = ((replyId? reply.body).map Text.trim).getD prepared.reference ∧
      response.reference = prepared.reference := by
  simp only [collectionResponse, bind_eq_ok, ite_throw_eq_ok, pure_eq_ok,
    Reply.document_eq_ok] at h
  obtain ⟨document, hdocument, -, rfl⟩ := h
  rw [replyId?, hdocument, Option.bind_some, ← Text.bind_content?, ← Json.scalarAt?_eq]
  exact ⟨rfl, rfl⟩

theorem send_answeredWith (request : String → Request) :
    (account.send request).Sends (AnsweredWith fun asked body reply ↦
      (∃ token, asked = request token) ∧ reply.body = body) := by
  apply answeredWith_after (Call.accessToken_sends _ _ _)
  intro token
  apply answeredWith_checked
    (answeredWith_submit (Call.sendAuthorized_sends account.tokenKey (request token)))
  intro asked body reply checked hfits h
  obtain ⟨-, hsame⟩ := Reply.checked_eq_ok.mp h
  rw [← hsame]
  exact ⟨⟨token, hfits.1⟩, hfits.2⟩

theorem collect_answeredWith (request : CollectionRequest) :
    (account.collect request).Sends (AnsweredWith fun asked body response ↦
      ∃ prepared, account.market.rules.prepareCollection request = .ok prepared ∧
        sentReference? asked = some prepared.reference ∧
        response.providerReference = ((replyId? body).map Text.trim).getD prepared.reference ∧
        response.reference = prepared.reference) := by
  apply answeredWith_ofExcept
  intro prepared hprepared
  apply answeredWith_checked (account.send_answeredWith _)
  intro asked body reply response hfits h
  obtain ⟨⟨token, hasked⟩, hbody⟩ := hfits
  rw [hasked, ← hbody]
  exact ⟨prepared, hprepared, sentReference?_postRequest _ prepared token,
    collectionResponse_ids h⟩

end Account

end MobileMoney.Airtel
