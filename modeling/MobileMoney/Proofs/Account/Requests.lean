import MobileMoney.Account
import MobileMoney.Proofs.Session.Requests

/-!
# Requests of the rails

What a collection and a disbursement send: the exchange request of the account, and requests whose
bodies are made of what the rules of the rail have prepared.  A question to Airtel Money sends its
exchange request and the one request for the transaction.
-/

namespace MobileMoney

open Call

namespace Mpesa.Account

variable (account : Account)

theorem post_sendsOnly (path : String) (body : Json) :
    (account.post path body).SendsOnly fun sent ↦
      sent = account.exchangeRequest ∨ ∃ token, sent = account.postRequest path body token := by
  apply (accessToken_sendsOnly _ _ (.inl rfl)).bind
  intro token
  exact sendAuthorized_sendsOnly _ (.inr ⟨token, rfl⟩)

theorem collect_sendsOnly (request : CollectionRequest) :
    (account.collect request).SendsOnly fun sent ↦
      sent = account.exchangeRequest ∨ ∃ prepared timestamp token,
        rules.prepareCollection request = .ok prepared ∧
        sent = account.postRequest "/mpesa/stkpush/v1/processrequest"
          (account.promptBody timestamp prepared) token := by
  apply sendsOnly_ofExcept_bind
  intro prepared hprepared
  apply isSilent_readClock.sendsOnly.bind
  intro now
  refine ((account.post_sendsOnly _ _).mono fun sent hsent ↦ ?_).bind
    fun _ ↦ (isSilent_ofExcept _).sendsOnly
  exact hsent.imp_right fun ⟨token, h⟩ ↦ ⟨prepared, _, token, hprepared, h⟩

theorem disburse_sendsOnly (request : DisbursementRequest) :
    (account.disburse request).SendsOnly fun sent ↦
      sent = account.exchangeRequest ∨ ∃ prepared identifier terms token,
        rules.prepareDisbursement remarksLength request = .ok prepared ∧
        sent = account.postRequest "/mpesa/b2c/v1/paymentrequest"
          (payoutBody identifier request.purpose terms prepared) token := by
  apply sendsOnly_ofExcept_bind
  intro prepared hprepared
  apply sendsOnly_ofExcept_bind
  intro terms _
  apply isSilent_drawIdentifier.sendsOnly.bind
  intro identifier
  refine ((account.post_sendsOnly _ _).mono fun sent hsent ↦ ?_).bind
    fun _ ↦ (isSilent_ofExcept _).sendsOnly
  exact hsent.imp_right fun ⟨token, h⟩ ↦ ⟨prepared, identifier, terms, token, hprepared, h⟩

end Mpesa.Account

namespace Airtel.Account

variable (account : Account)

theorem send_sendsOnly (request : String → Request) :
    (account.send request).SendsOnly fun sent ↦
      sent = account.exchangeRequest ∨ ∃ token, sent = request token := by
  apply (accessToken_sendsOnly _ _ (.inl rfl)).bind
  intro token
  exact (sendAuthorized_sendsOnly _ (.inr ⟨token, rfl⟩)).bind
    fun _ ↦ (isSilent_ofExcept _).sendsOnly

theorem collect_sendsOnly (request : CollectionRequest) :
    (account.collect request).SendsOnly fun sent ↦
      sent = account.exchangeRequest ∨ ∃ prepared token,
        account.market.rules.prepareCollection request = .ok prepared ∧
        sent = account.postRequest "/merchant/v1/payments/"
          (account.collectionBody prepared) token := by
  apply sendsOnly_ofExcept_bind
  intro prepared hprepared
  refine ((account.send_sendsOnly _).mono fun sent hsent ↦ ?_).bind
    fun _ ↦ (isSilent_ofExcept _).sendsOnly
  exact hsent.imp_right fun ⟨token, h⟩ ↦ ⟨prepared, token, hprepared, h⟩

theorem disburse_sendsOnly (request : DisbursementRequest) :
    (account.disburse request).SendsOnly fun sent ↦
      sent = account.exchangeRequest ∨ ∃ prepared pin token,
        account.market.rules.prepareDisbursement Market.textLength request = .ok prepared ∧
        sent = account.postRequest "/standard/v1/disbursements/"
          (account.disbursementBody pin prepared) token := by
  apply sendsOnly_ofExcept_bind
  intro prepared hprepared
  apply sendsOnly_ofExcept_bind
  intro pin _
  refine ((account.send_sendsOnly _).mono fun sent hsent ↦ ?_).bind
    fun _ ↦ (isSilent_ofExcept _).sendsOnly
  exact hsent.imp_right fun ⟨token, h⟩ ↦ ⟨prepared, pin, token, hprepared, h⟩

theorem query_sendsOnly (id : String) :
    (account.query id).SendsOnly fun sent ↦
      sent = account.exchangeRequest ∨
        ∃ token, sent = account.getRequest ("/standard/v1/payments/" ++ id) token := by
  unfold query
  split
  · exact fun _ _ ↦ ⟨[], (List.append_nil _).symm, List.forall_mem_nil _⟩
  · apply SendsOnly.retried
    exact (account.send_sendsOnly _).bind fun _ ↦ (isSilent_ofExcept _).sendsOnly

end Airtel.Account

namespace Tigo.Account

variable (account : Account)

theorem collect_sendsOnly (request : CollectionRequest) :
    (account.collect request).SendsOnly fun sent ↦
      ∃ prepared identifier, rules.prepareCollection request = .ok prepared ∧
        sent = account.collectionRequest
          (account.collectionDocument identifier prepared).render := by
  apply sendsOnly_ofExcept_bind
  intro prepared hprepared
  apply isSilent_drawIdentifier.sendsOnly.bind
  intro identifier
  exact (sendsOnly_submit (send_sends _ _) ⟨prepared, identifier, hprepared, rfl⟩).bind
    fun _ ↦ (isSilent_ofExcept _).sendsOnly

end Tigo.Account

end MobileMoney
