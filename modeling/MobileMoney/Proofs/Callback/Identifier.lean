import MobileMoney.Account
import MobileMoney.Proofs.Callback.Notice
import MobileMoney.Proofs.Json.Scalar
import MobileMoney.Proofs.Markup.Element

/-!
# Identifiers in notifications

Every rail has one place for the identifier of a payment.  What stands there decides alone whether a
notification is refused for want of an identifier, and which one its event has.
-/

namespace MobileMoney

/-- What is found in the place of the identifier decides about a refusal for want of one, and is the
identifier of an event. -/
structure Identifies (found : Option String) (missing : PaymentError)
    (result : Except PaymentError CallbackEvent) : Prop where
  missing_iff : result = .error missing ↔ found = none
  transactionId : ∀ event, result = .ok event → found = some event.transactionId

theorem identifies_require {provider : Provider} {complaint : String} {found : Option String}
    {rest : String → Except PaymentError CallbackEvent}
    (hother : ∀ id, rest id ≠ .error (.callback provider complaint))
    (hid : ∀ id event, rest id = .ok event → event.transactionId = id) :
    Identifies found (.callback provider complaint)
      (Payload.require provider complaint found >>= rest) := by
  cases found with
  | none => exact ⟨⟨fun _ ↦ rfl, fun _ ↦ rfl⟩, fun _ h ↦ nomatch h⟩
  | some id =>
    refine ⟨⟨fun h ↦ absurd h (hother id), fun h ↦ nomatch h⟩, fun event hevent ↦ ?_⟩
    exact congrArg some (hid id event hevent).symm

/-- The same where the amount is read in the end. -/
theorem identifies_require_complete {provider : Provider} {complaint currency : String}
    {found : Option String} {rest : String → Except PaymentError Notice}
    (hcomplaint : complaint.toList.head? ≠ some 'i')
    (hother : ∀ id, rest id ≠ .error (.callback provider complaint))
    (hrest : ∀ id notice, rest id = .ok notice →
      notice.event.provider = provider ∧ notice.event.transactionId = id) :
    Identifies found (.callback provider complaint)
      (Payload.require provider complaint found >>= rest >>= fun notice ↦
        notice.complete currency) := by
  have hassoc : (Payload.require provider complaint found >>= rest >>= fun notice ↦
      notice.complete currency) = Payload.require provider complaint found >>= fun id ↦
        rest id >>= fun notice ↦ notice.complete currency := bind_assoc ..
  rw [hassoc]
  apply identifies_require
  · intro id h
    obtain h | ⟨notice, hnotice, h⟩ := bind_eq_error.mp h
    · exact hother id h
    · obtain ⟨rfl, -⟩ := hrest id notice hnotice
      exact Notice.complete_ne_error hcomplaint h
  · intro id event h
    obtain ⟨notice, hnotice, h⟩ := bind_eq_ok.mp h
    obtain ⟨amount, -, rfl⟩ := Notice.complete_eq_ok.mp h
    exact (hrest id notice hnotice).2

theorem Payload.readDocument_of_documentOfBytes? {payload : ByteArray} {document : Json}
    (h : Json.documentOfBytes? payload = some document) (provider : Provider) :
    ∃ text, readDocument provider payload = .ok (document, text) :=
  ⟨Text.lossy payload, by rw [readDocument, h]⟩

/-! ## The places of identifiers -/

namespace Mpesa

def missingId : PaymentError :=
  .callback .mpesa "callback has no CheckoutRequestID"

/-- The text of the identifier of a prompt in a notification. -/
def callbackId? (payload : ByteArray) : Option String :=
  (Json.documentOfBytes? payload).bind
    (·.leafTextAt? ["Body", "stkCallback", "CheckoutRequestID"])

theorem readPromptAnswer_identifies (receivedAt : Instant) (payload : String) (answer : Json) :
    Identifies (answer.scalarAt? ["CheckoutRequestID"]) missingId
      (readPromptAnswer receivedAt payload answer >>= fun notice ↦
        notice.complete rules.currency) := by
  apply identifies_require_complete (by decide)
  · intro id
    exact pure_ne_error
  · intro id notice h
    rw [pure_eq_ok] at h
    rw [← h]
    exact ⟨rfl, rfl⟩

theorem parseCallback_identifies {payload : ByteArray} {text : String}
    (h : callbackId? payload = some text) (receivedAt : Instant) :
    Identifies (Text.content? text) missingId (parseCallback receivedAt payload) := by
  obtain ⟨document, hdocument, hleaf⟩ := Option.bind_eq_some_iff.mp h
  obtain ⟨payloadText, hread⟩ := Payload.readDocument_of_documentOfBytes? hdocument .mpesa
  obtain ⟨answer, hanswer, hscalar⟩ :=
    Json.exists_scalarAt?_of_leafTextAt? ["Body", "stkCallback"] ["CheckoutRequestID"] hleaf
  have hnotice : readNotice receivedAt payload =
      readPromptAnswer receivedAt payloadText answer := by
    rw [readNotice, hread, ok_bind]
    simp only [hanswer]
  rw [parseCallback, hnotice, ← hscalar]
  exact readPromptAnswer_identifies receivedAt payloadText answer

end Mpesa

namespace Airtel

def missingId : PaymentError :=
  .callback .airtelMoney "callback has no transaction id"

/-- The text of the identifier of a transaction in a notification. -/
def callbackId? (payload : ByteArray) : Option String :=
  (Json.documentOfBytes? payload).bind (·.leafTextAt? ["transaction", "id"])

/-- The identifier is the reference too. -/
theorem parseCallback_reference {receivedAt : Instant} {payload : ByteArray}
    {event : CallbackEvent} (h : parseCallback receivedAt payload = .ok event) :
    event.reference = some event.transactionId := by
  simp only [parseCallback, bind_eq_ok, pure_eq_ok] at h
  obtain ⟨⟨document, text⟩, -, transaction, -, id, -, rfl⟩ := h
  rfl

theorem parseCallback_identifies {payload : ByteArray} {text : String}
    (h : callbackId? payload = some text) (receivedAt : Instant) :
    Identifies (Text.content? text) missingId (parseCallback receivedAt payload) := by
  obtain ⟨document, hdocument, hleaf⟩ := Option.bind_eq_some_iff.mp h
  obtain ⟨payloadText, hread⟩ := Payload.readDocument_of_documentOfBytes? hdocument .airtelMoney
  obtain ⟨transaction, htransaction, hscalar⟩ :=
    Json.exists_scalarAt?_of_leafTextAt? ["transaction"] ["id"] hleaf
  have hmember : Payload.require .airtelMoney "callback has no transaction"
      (document.member? "transaction") = .ok transaction := by
    have hsome : document.member? "transaction" = some transaction := by
      simpa [Json.at?] using htransaction
    rw [hsome, Payload.require]
  rw [parseCallback, hread, ok_bind]
  simp only [hmember, ok_bind, hscalar]
  apply identifies_require
  · intro id
    exact pure_ne_error
  · intro id event h
    rw [pure_eq_ok] at h
    rw [← h]

end Airtel

namespace Tigo

def missingId : PaymentError :=
  .callback .tigoPesa "callback has no TXNID"

def innerText? (tag text : String) : Option String :=
  (Markup.innerText? tag.toList text.toList).map String.ofList

/-- The text of the identifier in a notification, as it stands between the tags. -/
def callbackId? (payload : ByteArray) : Option String :=
  (String.fromUTF8? payload).bind (innerText? "TXNID")

def callbackReference? (payload : ByteArray) : Option String :=
  (String.fromUTF8? payload).bind (innerText? "CUSTOMERREFERENCEID")

/-- What is read of a text between tags. -/
def content? (text : String) : Option String :=
  (Text.content? text).map Markup.unescape

theorem extract?_eq (text tag : String) :
    Markup.extract? text tag = (innerText? tag text).bind content? :=
  Markup.extract?_eq text tag

theorem parseCallback_reference {receivedAt : Instant} {payload : ByteArray}
    {event : CallbackEvent} (h : parseCallback receivedAt payload = .ok event) :
    event.reference = (callbackReference? payload).bind content? := by
  simp only [parseCallback, readNotice, bind_eq_ok, pure_eq_ok] at h
  obtain ⟨notice, ⟨text, hread, id, -, status, -, rfl⟩, hcomplete⟩ := h
  obtain ⟨amount, -, rfl⟩ := Notice.complete_eq_ok.mp hcomplete
  change Markup.extract? text "CUSTOMERREFERENCEID" = _
  have htext : String.fromUTF8? payload = some text := by
    unfold readText at hread
    split at hread
    · next found => rw [found, Except.ok.inj hread]
    · exact nomatch hread
  rw [callbackReference?, htext, Option.bind_some, ← extract?_eq]

theorem parseCallback_identifies {payload : ByteArray} {text : String}
    (h : callbackId? payload = some text) (receivedAt : Instant) :
    Identifies (content? text) missingId (parseCallback receivedAt payload) := by
  obtain ⟨payloadText, htext, hinner⟩ := Option.bind_eq_some_iff.mp h
  have hread : readText payload = .ok payloadText := by simp [readText, htext]
  have helement : Markup.extract? payloadText "TXNID" = content? text := by
    rw [extract?_eq, hinner, Option.bind_some]
  rw [parseCallback, readNotice, hread, ok_bind]
  simp only [helement]
  apply identifies_require_complete (by decide)
  · intro id h
    obtain h | ⟨status, -, h⟩ := bind_eq_error.mp h
    · unfold Payload.require at h
      split at h
      · exact nomatch h
      · simp at h
    · exact pure_ne_error h
  · intro id notice h
    simp only [bind_eq_ok, pure_eq_ok] at h
    obtain ⟨status, -, rfl⟩ := h
    exact ⟨rfl, rfl⟩

end Tigo

/-! ## All rails -/

namespace Provider

/-- The complaint about a notification without an identifier. -/
def missingId : Provider → PaymentError
  | mpesa => Mpesa.missingId
  | airtelMoney => Airtel.missingId
  | tigoPesa => Tigo.missingId

/-- The text in the place of the identifier of a notification, as it stands there. -/
def callbackId? : Provider → ByteArray → Option String
  | mpesa => Mpesa.callbackId?
  | airtelMoney => Airtel.callbackId?
  | tigoPesa => Tigo.callbackId?

/-- The text in the place where a notification has the reference that was sent, if it has any. -/
def callbackReference? : Provider → ByteArray → Option String
  | mpesa => fun _ ↦ none
  | airtelMoney => Airtel.callbackId?
  | tigoPesa => Tigo.callbackReference?

/-- What is read of a text in a notification. -/
def content? : Provider → String → Option String
  | tigoPesa => Tigo.content?
  | _ => Text.content?

variable {provider : Provider} {payload : ByteArray} {text : String}

theorem parseCallback_identifies (h : provider.callbackId? payload = some text)
    (receivedAt : Instant) :
    Identifies (provider.content? text) provider.missingId
      (provider.parseCallback receivedAt payload) := by
  cases provider with
  | mpesa => exact Mpesa.parseCallback_identifies h receivedAt
  | airtelMoney => exact Airtel.parseCallback_identifies h receivedAt
  | tigoPesa => exact Tigo.parseCallback_identifies h receivedAt

theorem parseCallback_reference (h : provider.callbackReference? payload = some text)
    {receivedAt : Instant} {event : CallbackEvent}
    (hevent : provider.parseCallback receivedAt payload = .ok event) :
    event.reference = provider.content? text := by
  cases provider with
  | mpesa => exact nomatch h
  | airtelMoney =>
    have hid := (Airtel.parseCallback_identifies h receivedAt).transactionId event hevent
    exact (Airtel.parseCallback_reference hevent).trans hid.symm
  | tigoPesa =>
    have hreference := Tigo.parseCallback_reference hevent
    rwa [show Tigo.callbackReference? payload = some text from h, Option.bind_some] at hreference

end Provider

end MobileMoney
