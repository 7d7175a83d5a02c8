import MobileMoney.Mpesa.Account
import MobileMoney.Proofs.Session.Answer

/-!
# M-Pesa responses

The response to a collection has the identifier of the prompt as the answer writes it, and the
reference that was prepared.
-/

namespace MobileMoney.Mpesa

/-- The text of the identifier in an answer to a prompt. -/
def replyId? (body : String) : Option String :=
  ((Json.parse? body.toList).bind PromptReply.read?).map PromptReply.checkoutRequestId

namespace Account

variable {account : Account}

theorem promptResponse_ids {prepared : PreparedCollection} {reply : Reply}
    {response : PaymentResponse} (h : promptResponse prepared reply = .ok response) :
    replyId? reply.body = some response.providerReference ∧
      response.reference = prepared.reference := by
  simp only [promptResponse, bind_eq_ok, ite_throw_eq_ok, pure_eq_ok, Reply.checked_eq_ok,
    Reply.record_eq_ok] at h
  obtain ⟨_, ⟨-, rfl⟩, answer, hanswer, -, rfl⟩ := h
  exact ⟨by rw [replyId?, hanswer, Option.map_some], rfl⟩

theorem post_answeredWith (path : String) (body : Json) :
    (account.post path body).Sends (AnsweredWith fun _ answer reply ↦ reply.body = answer) := by
  apply answeredWith_after (Call.accessToken_sends _ _ _)
  intro token
  apply (answeredWith_submit (Call.sendAuthorized_sends account.tokenKey _)).mono
  intro sent outcome h
  exact h.mono fun _ _ _ hfits ↦ hfits.2

theorem collect_answeredWith (request : CollectionRequest) :
    (account.collect request).Sends (AnsweredWith fun _ body response ↦
      ∃ prepared, rules.prepareCollection request = .ok prepared ∧
        replyId? body = some response.providerReference ∧
        response.reference = prepared.reference) := by
  apply answeredWith_ofExcept
  intro prepared hprepared
  apply answeredWith_after Call.isSilent_readClock
  intro now
  apply answeredWith_checked (account.post_answeredWith _ _)
  intro asked body reply response hbody h
  rw [← hbody]
  exact ⟨prepared, hprepared, promptResponse_ids h⟩

end Account

end MobileMoney.Mpesa
