import MobileMoney.Account
import MobileMoney.Proofs.Airtel.Response
import MobileMoney.Proofs.Callback.Identifier
import MobileMoney.Proofs.Mpesa.Response
import MobileMoney.Proofs.Rail.Preparation
import MobileMoney.Proofs.Tigo.Response

/-!
# Responses and their callbacks

The response to a collection names the identifier by which the callback of the payment is to be
found, and the reference that was sent.  Both ends trim what they read, but neither a reference that
has been cut off nor the identifier of a prompt is trimmed before it is put into the response.
-/

namespace MobileMoney

/-! ## The prepared reference -/

theorem RailRules.prepareCollection_reference {rules : RailRules} {request : CollectionRequest}
    {prepared : PreparedCollection} (h : rules.prepareCollection request = .ok prepared) :
    prepared.reference = Text.truncate rules.referenceLength request.reference ∧
      prepared.reference ≠ "" := by
  simp only [prepareCollection, bind_eq_ok, pure_eq_ok] at h
  obtain ⟨amount, -, reference, hreference, msisdn, -, rfl⟩ := h
  exact (rules.checkReference_isDecidedBy _).sound _ hreference

/-! ## All rails -/

namespace Provider

/-- The text of the identifier in an answer, if it has one. -/
def replyId? : Provider → String → Option String
  | mpesa => Mpesa.replyId?
  | airtelMoney => Airtel.replyId?
  | tigoPesa => Tigo.replyId?

/-- The reference as a request sends it, on the rails whose callbacks give it back. -/
def sentReference? : Provider → Request → Option String
  | mpesa => fun _ ↦ none
  | airtelMoney => Airtel.sentReference?
  | tigoPesa => Tigo.sentReference?

/-- The identifier that the callback is to carry: that of the answer, or on Airtel Money, where an
answer may have none, the one that was sent. -/
def expectedId? (provider : Provider) (asked : Request) (body : String) : Option String :=
  match provider with
  | airtelMoney => (Airtel.replyId? body).or (Airtel.sentReference? asked)
  | provider => provider.replyId? body

/-- The callback of a payment has its identifier, and gives back the identifier and the reference of
the response. -/
structure Agrees (provider : Provider) (asked : Request) (body : String)
    (response : PaymentResponse) : Prop where
  found : ∀ text, provider.expectedId? asked body = some text → ∀ receivedAt payload,
    provider.callbackId? payload = some text →
      provider.parseCallback receivedAt payload ≠ .error provider.missingId
  identifier : ∀ text, provider.expectedId? asked body = some text → ∀ receivedAt payload event,
    provider.callbackId? payload = some text →
      provider.parseCallback receivedAt payload = .ok event →
        event.transactionId = response.providerReference
  reference : ∀ text, provider.sentReference? asked = some text → ∀ receivedAt payload event,
    provider.callbackReference? payload = some text →
      provider.parseCallback receivedAt payload = .ok event →
        event.reference = some response.reference

/-- How far the callback of a payment agrees with the response: the identifier is missed only where
the response has a blank one, and is the same exactly where that one is trimmed; the reference is
the same exactly where that of the response is trimmed.  An identifier from an answer is trimmed,
but not on M-Pesa; without one, that of the response is the reference. -/
structure Correlates (provider : Provider) (asked : Request) (body : String)
    (response : PaymentResponse) : Prop where
  found : ∀ text, provider.expectedId? asked body = some text → ∀ receivedAt payload,
    provider.callbackId? payload = some text →
      (provider.parseCallback receivedAt payload = .error provider.missingId ↔
        Text.trim response.providerReference = "")
  identifier : ∀ text, provider.expectedId? asked body = some text → ∀ receivedAt payload event,
    provider.callbackId? payload = some text →
      provider.parseCallback receivedAt payload = .ok event →
        (event.transactionId = response.providerReference ↔
          Text.trim response.providerReference = response.providerReference)
  reference : ∀ text, provider.sentReference? asked = some text → ∀ receivedAt payload event,
    provider.callbackReference? payload = some text →
      provider.parseCallback receivedAt payload = .ok event →
        (event.reference = some response.reference ↔
          Text.trim response.reference = response.reference)
  carried : provider ≠ .mpesa → (provider.replyId? body).isSome = true →
    Text.content? response.providerReference = some response.providerReference
  sent : provider = .airtelMoney → provider.replyId? body = none →
    response.providerReference = response.reference

/-- What the response names is trimmed and not blank. -/
theorem Correlates.agrees {provider : Provider} {asked : Request} {body : String}
    {response : PaymentResponse} (h : provider.Correlates asked body response)
    (hid : Text.content? response.providerReference = some response.providerReference)
    (hreference : Text.trim response.reference = response.reference) :
    provider.Agrees asked body response := by
  rw [Text.content?_eq_some_iff] at hid
  constructor
  · intro text htext receivedAt payload hpayload hmissing
    exact hid.1 ((h.found text htext receivedAt payload hpayload).mp hmissing)
  · intro text htext receivedAt payload event hpayload hevent
    exact (h.identifier text htext receivedAt payload event hpayload hevent).mpr hid.2
  · intro text htext receivedAt payload event hpayload hevent
    exact (h.reference text htext receivedAt payload event hpayload hevent).mpr hreference

variable {provider : Provider} {payload : ByteArray} {text value : String}

/-- A notification with a text that is read like a given value. -/
theorem missingId_iff (h : provider.callbackId? payload = some text)
    (hread : provider.content? text = Text.content? value) (receivedAt : Instant) :
    provider.parseCallback receivedAt payload = .error provider.missingId ↔
      Text.trim value = "" := by
  rw [(parseCallback_identifies h receivedAt).missing_iff, hread, Text.content?_eq_none_iff]

theorem transactionId_eq_iff (h : provider.callbackId? payload = some text)
    (hread : provider.content? text = Text.content? value) {receivedAt : Instant}
    {event : CallbackEvent} (hevent : provider.parseCallback receivedAt payload = .ok event) :
    event.transactionId = value ↔ Text.trim value = value := by
  have hfound := (parseCallback_identifies h receivedAt).transactionId event hevent
  rw [hread, Text.content?_eq_some_iff] at hfound
  rw [← hfound.2]

theorem reference_eq_iff (h : provider.callbackReference? payload = some text)
    (hread : provider.content? text = Text.content? value) (hvalue : Text.trim value ≠ "")
    {receivedAt : Instant} {event : CallbackEvent}
    (hevent : provider.parseCallback receivedAt payload = .ok event) :
    event.reference = some value ↔ Text.trim value = value := by
  rw [parseCallback_reference h hevent, hread, Text.content?_eq_some_iff]
  exact and_iff_right hvalue

/-- Both ends read what they carry like what stands in the response. -/
theorem correlates_of_content {asked : Request} {body : String} {response : PaymentResponse}
    (hid : ∀ text, provider.expectedId? asked body = some text →
      provider.content? text = Text.content? response.providerReference)
    (hreference : ∀ text, provider.sentReference? asked = some text →
      provider.content? text = Text.content? response.reference)
    (hvalue : Text.trim response.reference ≠ "")
    (hcarried : provider ≠ .mpesa → (provider.replyId? body).isSome = true →
      Text.content? response.providerReference = some response.providerReference)
    (hsent : provider = .airtelMoney → provider.replyId? body = none →
      response.providerReference = response.reference) :
    provider.Correlates asked body response where
  found text htext receivedAt _ hpayload := missingId_iff hpayload (hid text htext) receivedAt
  identifier text htext _ _ _ hpayload hevent :=
    transactionId_eq_iff hpayload (hid text htext) hevent
  reference text htext _ _ _ hpayload hevent :=
    reference_eq_iff hpayload (hreference text htext) hvalue hevent
  carried := hcarried
  sent := hsent

end Provider

namespace Account

/-- The reference of a response is not blank, and trimmed unless it has been cut off. -/
structure HasSentReference (account : Account) (request : CollectionRequest)
    (response : PaymentResponse) : Prop where
  cut : response.reference = Text.truncate account.rules.referenceLength request.reference
  full : Text.trim response.reference ≠ ""
  whole : (Text.trim request.reference).length ≤ account.rules.referenceLength →
    Text.trim response.reference = response.reference

theorem hasSentReference_of_prepared {account : Account} {request : CollectionRequest}
    {prepared : PreparedCollection} {response : PaymentResponse}
    (hprepared : account.rules.prepareCollection request = .ok prepared)
    (hresponse : response.reference = prepared.reference) :
    account.HasSentReference request response := by
  obtain ⟨hcut, hne⟩ := RailRules.prepareCollection_reference hprepared
  rw [← hresponse] at hcut hne
  refine ⟨hcut, ?_, fun hlength ↦ ?_⟩
  · rw [hcut] at hne ⊢
    exact Text.trim_truncate_ne_empty hne
  · rw [hcut]
    exact Text.trim_truncate_of_length_le hlength

end Account

open Account

theorem Mpesa.Account.response_correlates (account : Mpesa.Account) (request : CollectionRequest) :
    (account.collect request).Sends (AnsweredWith fun asked body response ↦
      Provider.mpesa.Correlates asked body response ∧
        HasSentReference (.mpesa account) request response) := by
  apply (Mpesa.Account.collect_answeredWith request).mono
  intro sent outcome h
  apply h.mono
  intro asked body response hresponse
  obtain ⟨prepared, hprepared, hreply, hreference⟩ := hresponse
  have hsent : HasSentReference (.mpesa account) request response :=
    hasSentReference_of_prepared hprepared hreference
  refine ⟨Provider.correlates_of_content ?_ nofun hsent.full (absurd rfl) nofun, hsent⟩
  intro text htext
  obtain rfl := Option.some.inj (hreply.symm.trans htext)
  rfl

theorem Airtel.Account.response_correlates (account : Airtel.Account)
    (request : CollectionRequest) :
    (account.collect request).Sends (AnsweredWith fun asked body response ↦
      Provider.airtelMoney.Correlates asked body response ∧
        HasSentReference (.airtel account) request response) := by
  apply (Airtel.Account.collect_answeredWith request).mono
  intro sent outcome h
  apply h.mono
  intro asked body response hresponse
  obtain ⟨prepared, hprepared, hasked, hid, hreference⟩ := hresponse
  have hsent : HasSentReference (.airtel account) request response :=
    hasSentReference_of_prepared hprepared hreference
  have hgiven : ∀ text, Provider.airtelMoney.sentReference? asked = some text →
      Provider.airtelMoney.content? text = Text.content? response.reference := by
    intro text htext
    obtain rfl := Option.some.inj (hasked.symm.trans htext)
    rw [hreference]
    rfl
  cases hreply : Airtel.replyId? body with
  | none =>
    -- What was sent stands in for the identifier, in the response and in the callback.
    have hfallback : response.providerReference = response.reference := by
      rw [hid, hreply, hreference]
      rfl
    have hexpected : Provider.airtelMoney.expectedId? asked body =
        Provider.airtelMoney.sentReference? asked := by
      rw [Provider.expectedId?, hreply, Option.none_or]
      rfl
    refine ⟨Provider.correlates_of_content ?_ hgiven hsent.full ?_ fun _ _ ↦ hfallback, hsent⟩
    · rw [hexpected, hfallback]
      exact hgiven
    · intro _ hsome
      rw [Provider.replyId?, hreply] at hsome
      contradiction
  | some carried =>
    have htrimmed : response.providerReference = Text.trim carried := by
      rw [hid, hreply]
      rfl
    have hfull : Text.isBlankText carried = false := by
      simpa using (Option.filter_eq_some_iff.mp hreply).2
    refine ⟨Provider.correlates_of_content ?_ hgiven hsent.full (fun _ _ ↦ ?_) ?_, hsent⟩
    · intro text htext
      rw [Provider.expectedId?, hreply, Option.some_or] at htext
      obtain rfl := Option.some.inj htext
      rw [htrimmed, Text.content?_trim]
      rfl
    · rw [htrimmed, Text.content?_trim, Text.content?_of_not_blank hfull]
    · intro _ hnone
      rw [Provider.replyId?, hreply] at hnone
      contradiction

theorem Tigo.Account.response_correlates (account : Tigo.Account) (request : CollectionRequest) :
    (account.collect request).Sends (AnsweredWith fun asked body response ↦
      Provider.tigoPesa.Correlates asked body response ∧
        HasSentReference (.tigo account) request response) := by
  apply (Tigo.Account.collect_answeredWith request).mono
  intro sent outcome h
  apply h.mono
  intro asked body response hresponse
  obtain ⟨prepared, identifier, hprepared, hasked, hid, hreference⟩ := hresponse
  have hsent : HasSentReference (.tigo account) request response :=
    hasSentReference_of_prepared hprepared hreference
  have hcarried : ∀ text, Tigo.replyId? body = some text →
      Text.isBlankText text = false ∧
        response.providerReference = Markup.unescape (Text.trim text) := by
    intro text hreply
    refine ⟨by simpa using (Option.filter_eq_some_iff.mp hreply).2, ?_⟩
    rw [hid, hreply]
    rfl
  refine ⟨Provider.correlates_of_content ?_ ?_ hsent.full ?_ nofun, hsent⟩
  · intro text htext
    obtain ⟨hfull, htrimmed⟩ := hcarried text htext
    rw [htrimmed, Markup.content?_unescape_trim hfull, Provider.content?, Tigo.content?,
      Text.content?_of_not_blank hfull, Option.map_some]
  · intro text htext
    obtain rfl := Option.some.inj (hasked.symm.trans htext)
    rw [hreference, Provider.content?, Tigo.content?, Markup.content?_escape]
  · intro _ hsome
    obtain ⟨text, hreply⟩ := Option.isSome_iff_exists.mp hsome
    obtain ⟨hfull, htrimmed⟩ := hcarried text hreply
    rw [htrimmed, Markup.content?_unescape_trim hfull]

namespace Account

/-- **Callbacks find their payments.**  A collection that gives a response has been answered.  The
callback of the payment is then found, and agrees with the response, exactly as far as what stands
in the response is trimmed: identifiers from answers are, except those of M-Pesa, and references are
unless they have been cut off after a blank. -/
theorem collect_correlates (account : Account) (request : CollectionRequest) :
    (account.collect request).Sends (AnsweredWith fun asked body response ↦
      account.provider.Correlates asked body response ∧
        account.HasSentReference request response ∧
        (Text.content? response.providerReference = some response.providerReference →
          Text.trim response.reference = response.reference →
            account.provider.Agrees asked body response)) := by
  have hcollect : (account.collect request).Sends (AnsweredWith fun asked body response ↦
      account.provider.Correlates asked body response ∧
        account.HasSentReference request response) := by
    cases account with
    | mpesa account => exact account.response_correlates request
    | airtel account => exact account.response_correlates request
    | tigo account => exact account.response_correlates request
  apply hcollect.mono
  intro sent outcome h
  apply h.mono
  intro asked body response hresponse
  exact ⟨hresponse.1, hresponse.2, hresponse.1.agrees⟩

/-! ## A reference that is cut off after a blank -/

/-- The first fifty characters end with a blank. -/
def cutRequest : CollectionRequest where
  amount := ⟨50000, ⟨"KES", by decide⟩, by decide⟩
  payerPhone := "0712345678"
  reference := "Rent of March 2024 for the flat in Moi Avenue no. 77"
  description := none

def cutAccount : Airtel.Account where
  config := ⟨"client", "secret", "KE", none, none, .sandbox, none⟩
  market := ⟨"KE", "KES", "254"⟩
  policy := .single

/-- A token, and then an answer without an identifier. -/
def cutWorld : World where
  deliver requests :=
    if requests.length = 1 then
      .answered 200 "\x7b\"access_token\":\"token\",\"expires_in\":3600\x7d"
    else .answered 200 "\x7b\"status\":\x7b\"result_code\":\"TS\"\x7d\x7d"
  clock _ := ⟨0, 0, by decide⟩
  identifier _ := ""

/-- The callback that gives back the identifier that was sent. -/
def cutCallback : ByteArray :=
  String.toUTF8
    "\x7b\"transaction\":\x7b\"id\":\"Rent of March 2024 for the flat in Moi Avenue no. \"\x7d\x7d"

def cutRun : Outcome PaymentResponse × Session :=
  Account.collect (.airtel cutAccount) cutRequest cutWorld (.start .zero)

theorem cutRun_done : ∃ response, cutRun.1 = .done response ∧
    response.providerReference = "Rent of March 2024 for the flat in Moi Avenue no. " := by
  have hreference : (match cutRun.1 with
      | .done response => some response.providerReference
      | _ => none) = some "Rent of March 2024 for the flat in Moi Avenue no. " := by
    decide +kernel
  cases hdone : cutRun.1 with
  | done response =>
    rw [hdone] at hreference
    exact ⟨response, rfl, Option.some.inj hreference⟩
  | failed error =>
    rw [hdone] at hreference
    contradiction
  | aborted =>
    rw [hdone] at hreference
    contradiction

theorem parseCallback_cutCallback : ∃ event,
    Provider.airtelMoney.parseCallback (cutWorld.clock 0) cutCallback = .ok event ∧
      event.transactionId = "Rent of March 2024 for the flat in Moi Avenue no." := by
  have hid : (Provider.airtelMoney.parseCallback (cutWorld.clock 0) cutCallback).toOption.map
      CallbackEvent.transactionId = some "Rent of March 2024 for the flat in Moi Avenue no." := by
    decide +kernel
  cases hevent : Provider.airtelMoney.parseCallback (cutWorld.clock 0) cutCallback with
  | ok event =>
    rw [hevent] at hid
    exact ⟨event, rfl, Option.some.inj hid⟩
  | error error =>
    rw [hevent] at hid
    contradiction

/-- The identifier that was sent is not the one that is read. -/
theorem not_forall_collect_agrees :
    ¬ ∀ (account : Account) (request : CollectionRequest),
      (account.collect request).Sends (AnsweredWith fun asked body response ↦
        account.provider.Agrees asked body response) := by
  intro hall
  obtain ⟨sent, hlog, hanswered⟩ := hall (.airtel cutAccount) cutRequest cutWorld (.start .zero)
  obtain ⟨response, hdone, hresponse⟩ := cutRun_done
  obtain ⟨earlier, asked, status, body, hsent, hagrees⟩ := hanswered response hdone
  have hexpected : (cutRun.2.log.getLast?.bind fun exchange ↦
      match exchange.delivery with
      | .answered _ body => Provider.airtelMoney.expectedId? exchange.request body
      | _ => none) = some "Rent of March 2024 for the flat in Moi Avenue no. " := by
    decide +kernel
  have hlast : cutRun.2.log.getLast? = some ⟨asked, .answered status body⟩ := by
    rw [cutRun, hlog, hsent, ← List.append_assoc, List.getLast?_concat]
  rw [hlast, Option.bind_some] at hexpected
  have hcarried : Provider.airtelMoney.callbackId? cutCallback =
      some "Rent of March 2024 for the flat in Moi Avenue no. " := by
    decide +kernel
  obtain ⟨event, hevent, hread⟩ := parseCallback_cutCallback
  have hsame : event.transactionId = response.providerReference :=
    hagrees.identifier _ hexpected (cutWorld.clock 0) cutCallback event hcarried hevent
  rw [hread, hresponse] at hsame
  exact absurd hsame (by decide)

end Account

end MobileMoney
