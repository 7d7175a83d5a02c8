import MobileMoney.Proofs.Json.Slot
import MobileMoney.Proofs.Money.Canonical
import MobileMoney.Proofs.Time.Notation
import MobileMoney.Record.Payment
import MobileMoney.Record.Reconciliation

/-!
# Records that are written and read

Every record is read back from the document that is written for it.  A record that is read, from
whatever document, is written in the one form and read back as well.
-/

namespace MobileMoney

open Json

/-! ## Parts of records -/

theorem Provider.readsBack : ReadsBack ofJson? toJson where
  read_write provider := by cases provider <;> rfl
  ne_null _ h := by cases h

theorem PaymentStatus.readsBack : ReadsBack ofJson? toJson where
  read_write status := by cases status <;> rfl
  ne_null _ h := by cases h

theorem InvoiceStatus.readsBack : ReadsBack ofJson? toJson where
  read_write status := by cases status <;> rfl
  ne_null _ h := by cases h

theorem CallbackKind.readsBack : ReadsBack ofJson? toJson where
  read_write kind := by cases kind <;> rfl
  ne_null _ h := by cases h

theorem DisbursementPurpose.readsBack : ReadsBack ofJson? toJson where
  read_write purpose := by cases purpose <;> rfl
  ne_null _ h := by cases h

theorem Instant.readsBack : ReadsBack ofJson? toJson where
  read_write t := by
    rw [toJson, ofJson?, text?, Option.bind_some, read?_write]
  ne_null _ h := by cases h

theorem Date.ofJson?_toJson {date : Date} (h : date.IsValid) : ofJson? date.toJson = some date := by
  rw [toJson, ofJson?, text?, Option.bind_some, read?_write h]

theorem Date.isValid_of_ofJson? {document : Json} {date : Date}
    (h : ofJson? document = some date) : date.IsValid := by
  obtain ⟨s, -, hread⟩ := Option.bind_eq_some_iff.mp h
  exact isValid_of_read? hread

theorem Money.readsBack : ReadsBack ofJson? toJson where
  read_write money := by
    have hslots : money.toJson.slots? ["amount_minor_units", "currency"] = _ :=
      slots?_zip ["amount_minor_units", "currency"]
        [.nat money.minor, .text money.currency.code] (by decide) rfl
    have hbuilt := money.ofMinor_code money.minor_lt
    rw [ofJson?, hslots, Option.bind_eq_bind, Option.bind_some]
    refine (nat_readsBack.required?_bind _ _).trans ?_
    refine (text_readsBack.required?_bind _ _).trans ?_
    rw [hbuilt]
    rfl
  ne_null _ h := by cases h

/-! ## Payment records -/

theorem CollectionRequest.readsBack : ReadsBack ofJson? toJson where
  read_write request := by
    have hslots : request.toJson.slots? ["amount", "payer_phone", "reference", "description"] = _ :=
      slots?_zip ["amount", "payer_phone", "reference", "description"]
        [request.amount.toJson, .text request.payerPhone, .text request.reference,
          .optional text request.description] (by decide) rfl
    rw [ofJson?, hslots, Option.bind_eq_bind, Option.bind_some]
    refine (Money.readsBack.required?_bind _ _).trans ?_
    refine (text_readsBack.required?_bind _ _).trans ?_
    refine (text_readsBack.required?_bind _ _).trans ?_
    refine (text_readsBack.optional?_bind _ _).trans ?_
    rfl
  ne_null _ h := by cases h

theorem DisbursementRequest.readsBack : ReadsBack ofJson? toJson where
  read_write request := by
    have hslots : request.toJson.slots? ["amount", "recipient_phone", "reference", "remarks",
        "occasion", "command", "initiator_name", "security_credential"] = _ :=
      slots?_zip ["amount", "recipient_phone", "reference", "remarks", "occasion", "command",
          "initiator_name", "security_credential"]
        [request.amount.toJson, .text request.recipientPhone, .text request.reference,
          .text request.remarks, .optional text request.occasion, request.purpose.toJson,
          .optional text request.initiatorName, .optional text request.securityCredential]
        (by decide) rfl
    rw [ofJson?, hslots, Option.bind_eq_bind, Option.bind_some]
    refine (Money.readsBack.required?_bind _ _).trans ?_
    refine (text_readsBack.required?_bind _ _).trans ?_
    refine (text_readsBack.required?_bind _ _).trans ?_
    refine (text_readsBack.required?_bind _ _).trans ?_
    refine (text_readsBack.optional?_bind _ _).trans ?_
    refine (DisbursementPurpose.readsBack.default?_bind _ _ _).trans ?_
    refine (text_readsBack.optional?_bind _ _).trans ?_
    refine (text_readsBack.optional?_bind _ _).trans ?_
    rfl
  ne_null _ h := by cases h

theorem PaymentResponse.readsBack : ReadsBack ofJson? toJson where
  read_write response := by
    have hslots : response.toJson.slots? ["provider", "status", "provider_reference",
        "secondary_reference", "reference", "customer_message"] = _ :=
      slots?_zip ["provider", "status", "provider_reference", "secondary_reference", "reference",
          "customer_message"]
        [response.provider.toJson, response.status.toJson, .text response.providerReference,
          .optional text response.secondaryReference, .text response.reference,
          .optional text response.customerMessage]
        (by decide) rfl
    rw [ofJson?, hslots, Option.bind_eq_bind, Option.bind_some]
    refine (Provider.readsBack.required?_bind _ _).trans ?_
    refine (PaymentStatus.readsBack.required?_bind _ _).trans ?_
    refine (text_readsBack.required?_bind _ _).trans ?_
    refine (text_readsBack.optional?_bind _ _).trans ?_
    refine (text_readsBack.required?_bind _ _).trans ?_
    refine (text_readsBack.optional?_bind _ _).trans ?_
    rfl
  ne_null _ h := by cases h

theorem StatusResponse.readsBack : ReadsBack ofJson? toJson where
  read_write response := by
    have hslots : response.toJson.slots? ["provider", "provider_reference", "status",
        "result_code", "description"] = _ :=
      slots?_zip ["provider", "provider_reference", "status", "result_code", "description"]
        [response.provider.toJson, .text response.providerReference, response.status.toJson,
          .optional text response.resultCode, .optional text response.description]
        (by decide) rfl
    rw [ofJson?, hslots, Option.bind_eq_bind, Option.bind_some]
    refine (Provider.readsBack.required?_bind _ _).trans ?_
    refine (text_readsBack.required?_bind _ _).trans ?_
    refine (PaymentStatus.readsBack.required?_bind _ _).trans ?_
    refine (text_readsBack.optional?_bind _ _).trans ?_
    refine (text_readsBack.optional?_bind _ _).trans ?_
    rfl
  ne_null _ h := by cases h

theorem CallbackEvent.readsBack : ReadsBack ofJson? toJson where
  read_write event := by
    have hslots : event.toJson.slots? ["provider", "kind", "provider_transaction_id", "reference",
        "status", "amount", "receipt_number", "payer_phone", "transaction_date", "result_code",
        "result_description", "raw_payload", "received_at"] = _ :=
      slots?_zip ["provider", "kind", "provider_transaction_id", "reference", "status", "amount",
          "receipt_number", "payer_phone", "transaction_date", "result_code",
          "result_description", "raw_payload", "received_at"]
        [event.provider.toJson, event.kind.toJson, .text event.transactionId,
          .optional text event.reference, event.status.toJson, .optional Money.toJson event.amount,
          .optional text event.receiptNumber, .optional text event.payerPhone,
          .optional text event.transactionDate, .optional text event.resultCode,
          .optional text event.resultDescription, .text event.payload, event.receivedAt.toJson]
        (by decide) rfl
    rw [ofJson?, hslots, Option.bind_eq_bind, Option.bind_some]
    refine (Provider.readsBack.required?_bind _ _).trans ?_
    refine (CallbackKind.readsBack.required?_bind _ _).trans ?_
    refine (text_readsBack.required?_bind _ _).trans ?_
    refine (text_readsBack.optional?_bind _ _).trans ?_
    refine (PaymentStatus.readsBack.required?_bind _ _).trans ?_
    refine (Money.readsBack.optional?_bind _ _).trans ?_
    refine (text_readsBack.optional?_bind _ _).trans ?_
    refine (text_readsBack.optional?_bind _ _).trans ?_
    refine (text_readsBack.optional?_bind _ _).trans ?_
    refine (text_readsBack.optional?_bind _ _).trans ?_
    refine (text_readsBack.optional?_bind _ _).trans ?_
    refine (text_readsBack.required?_bind _ _).trans ?_
    refine (Instant.readsBack.required?_bind _ _).trans ?_
    rfl
  ne_null _ h := by cases h

/-! ## Reconciliation records -/

theorem PaymentRecord.readsBack : ReadsBack ofJson? toJson where
  read_write payment := by
    have hslots : payment.toJson.slots? ["id", "amount", "status", "provider", "reference",
        "paid_at"] = _ :=
      slots?_zip ["id", "amount", "status", "provider", "reference", "paid_at"]
        [.text payment.id, payment.amount.toJson, payment.status.toJson,
          .optional Provider.toJson payment.provider, .optional text payment.reference,
          .optional Instant.toJson payment.paidAt]
        (by decide) rfl
    rw [ofJson?, hslots, Option.bind_eq_bind, Option.bind_some]
    refine (text_readsBack.required?_bind _ _).trans ?_
    refine (Money.readsBack.required?_bind _ _).trans ?_
    refine (PaymentStatus.readsBack.required?_bind _ _).trans ?_
    refine (Provider.readsBack.trailing?_bind _ _).trans ?_
    refine (text_readsBack.trailing?_bind _ _).trans ?_
    refine (Instant.readsBack.trailing?_bind _ _).trans ?_
    rfl
  ne_null _ h := by cases h

/-- The due date, if there is one, is a day of the calendar. -/
def InvoiceRecord.IsDated (invoice : InvoiceRecord) : Prop :=
  ∀ date ∈ invoice.dueDate, date.IsValid

theorem Date.trailing?_given {found : Option Date} (h : ∀ date ∈ found, date.IsValid) :
    (Slot.given (.optional toJson found)).trailing? ofJson? = some found := by
  cases found with
  | none => rfl
  | some date =>
    have hread := ofJson?_toJson (h date rfl)
    change (ofJson? date.toJson).map some = _
    rw [hread, Option.map_some]

theorem InvoiceRecord.ofJson?_toJson {invoice : InvoiceRecord} (h : invoice.IsDated) :
    ofJson? invoice.toJson = some invoice := by
  have hslots : invoice.toJson.slots? ["id", "amount_due", "status", "due_date"] = _ :=
    slots?_zip ["id", "amount_due", "status", "due_date"]
      [.text invoice.id, invoice.due.toJson, invoice.status.toJson,
        .optional Date.toJson invoice.dueDate]
      (by decide) rfl
  rw [ofJson?, hslots, Option.bind_eq_bind, Option.bind_some]
  refine (text_readsBack.required?_bind _ _).trans ?_
  refine (Money.readsBack.required?_bind _ _).trans ?_
  refine (InvoiceStatus.readsBack.required?_bind _ _).trans ?_
  refine (congrArg (Option.bind · _) (Date.trailing?_given h)).trans ?_
  rfl

/-- Only days of the calendar are read as due dates. -/
theorem InvoiceRecord.isDated_of_ofJson? {document : Json} {invoice : InvoiceRecord}
    (h : ofJson? document = some invoice) : invoice.IsDated := by
  simp only [ofJson?, Option.bind_eq_bind, Option.bind_eq_some_iff] at h
  obtain ⟨slots, -, h⟩ := h
  split at h
  · simp only [Option.bind_eq_some_iff] at h
    obtain ⟨_, -, _, -, _, -, due, hdue, ⟨⟩⟩ := h
    rintro date ⟨⟩
    obtain ⟨value, -, hdate⟩ := Slot.given_of_trailing? hdue
    exact Date.isValid_of_ofJson? hdate
  · cases h

/-! ## Reports -/

namespace Reconciliation

theorem MatchType.readsBack : ReadsBack (named? ofCode?) (fun type ↦ .text type.code) where
  read_write type := by cases type <;> rfl
  ne_null _ h := by cases h

theorem ExceptionType.readsBack : ReadsBack (named? ofCode?) (fun type ↦ .text type.code) where
  read_write type := by cases type <;> rfl
  ne_null _ h := by cases h

theorem Match.readsBack : ReadsBack ofJson? toJson where
  read_write entry := by
    have hslots : entry.toJson.slots? ["payment_id", "invoice_id", "amount", "match_type"] = _ :=
      slots?_zip ["payment_id", "invoice_id", "amount", "match_type"]
        [.text entry.paymentId, .text entry.invoiceId, entry.amount.toJson, .text entry.type.code]
        (by decide) rfl
    rw [ofJson?, hslots, Option.bind_eq_bind, Option.bind_some]
    refine (text_readsBack.required?_bind _ _).trans ?_
    refine (text_readsBack.required?_bind _ _).trans ?_
    refine (Money.readsBack.required?_bind _ _).trans ?_
    refine (MatchType.readsBack.required?_bind _ _).trans ?_
    rfl
  ne_null _ h := by cases h

theorem ReportException.readsBack : ReadsBack ofJson? toJson where
  read_write entry := by
    have hslots : entry.toJson.slots? ["exception_type", "entity_id", "amount", "description"] = _ :=
      slots?_zip ["exception_type", "entity_id", "amount", "description"]
        [.text entry.type.code, .text entry.entityId, entry.amount.toJson, .text entry.description]
        (by decide) rfl
    rw [ofJson?, hslots, Option.bind_eq_bind, Option.bind_some]
    refine (ExceptionType.readsBack.required?_bind _ _).trans ?_
    refine (text_readsBack.required?_bind _ _).trans ?_
    refine (Money.readsBack.required?_bind _ _).trans ?_
    refine (text_readsBack.required?_bind _ _).trans ?_
    rfl
  ne_null _ h := by cases h

end Reconciliation

/-! ## All records -/

/-- What is written for a value is read as this value, and so is what is written for a value that
has been read from any document. -/
structure IsLossless {α : Type} (read : Json → Option α) (write : α → Json) (fits : α → Prop) :
    Prop where
  written : ∀ value, fits value → read (write value) = some value
  reread : ∀ document value, read document = some value →
    fits value ∧ read (write value) = some value

theorem Json.ReadsBack.isLossless {α : Type} {read : Json → Option α} {write : α → Json}
    (h : ReadsBack read write) : IsLossless read write fun _ ↦ True where
  written value _ := h.read_write value
  reread _ value _ := ⟨trivial, h.read_write value⟩

theorem InvoiceRecord.isLossless : IsLossless ofJson? toJson IsDated where
  written _ h := ofJson?_toJson h
  reread _ _ h := ⟨isDated_of_ofJson? h, ofJson?_toJson (isDated_of_ofJson? h)⟩

/-- **Records survive being written and read.**  Amounts of money, requests, responses, events and
the payments and invoices of a snapshot are read back from the document that is written for them,
with instants and dates in any year of the calendar.  A record that is read from whatever document,
with other members, without its optional ones, or with a currency or an instant in another spelling,
is read back from the document that is written for it as well. -/
theorem records_are_lossless :
    IsLossless Money.ofJson? Money.toJson (fun _ ↦ True) ∧
    IsLossless CollectionRequest.ofJson? CollectionRequest.toJson (fun _ ↦ True) ∧
    IsLossless DisbursementRequest.ofJson? DisbursementRequest.toJson (fun _ ↦ True) ∧
    IsLossless PaymentResponse.ofJson? PaymentResponse.toJson (fun _ ↦ True) ∧
    IsLossless StatusResponse.ofJson? StatusResponse.toJson (fun _ ↦ True) ∧
    IsLossless CallbackEvent.ofJson? CallbackEvent.toJson (fun _ ↦ True) ∧
    IsLossless PaymentRecord.ofJson? PaymentRecord.toJson (fun _ ↦ True) ∧
    IsLossless InvoiceRecord.ofJson? InvoiceRecord.toJson InvoiceRecord.IsDated :=
  ⟨Money.readsBack.isLossless, CollectionRequest.readsBack.isLossless,
    DisbursementRequest.readsBack.isLossless, PaymentResponse.readsBack.isLossless,
    StatusResponse.readsBack.isLossless, CallbackEvent.readsBack.isLossless,
    PaymentRecord.readsBack.isLossless, InvoiceRecord.isLossless⟩

/-- A payment with its currency, its time and its members in another form than they are written. -/
def looselyWrittenPayment : Json :=
  .object [("note", .null), ("status", .text "succeeded"), ("id", .text "p1"),
    ("amount", .object [("currency", .text " kes"), ("amount_minor_units", .nat 45000)]),
    ("paid_at", .text "2024-02-29 23:30:60.5+03:00"), ("provider", .null)]

def datedInvoice : Json :=
  .object [("id", .text "i1"),
    ("amount_due", .object [("amount_minor_units", .nat 45000), ("currency", .text "KES")]),
    ("status", .text "overdue"), ("due_date", .text "2024-2-29")]

theorem records_are_lossless_loose :
    (∃ payment, PaymentRecord.ofJson? looselyWrittenPayment = some payment ∧
      PaymentRecord.ofJson? payment.toJson = some payment) ∧
    ∃ invoice, InvoiceRecord.ofJson? datedInvoice = some invoice ∧ invoice.IsDated ∧
      InvoiceRecord.ofJson? invoice.toJson = some invoice := by
  obtain ⟨-, -, -, -, -, -, hpayment, hinvoice⟩ := records_are_lossless
  have hread : (PaymentRecord.ofJson? looselyWrittenPayment).isSome = true := by decide
  have hread' : (InvoiceRecord.ofJson? datedInvoice).isSome = true := by decide
  obtain ⟨payment, hread⟩ := Option.isSome_iff_exists.mp hread
  obtain ⟨invoice, hread'⟩ := Option.isSome_iff_exists.mp hread'
  obtain ⟨hdated, -⟩ := hinvoice.reread _ _ hread'
  exact ⟨⟨payment, hread, (hpayment.reread _ _ hread).2⟩,
    invoice, hread', hdated, hinvoice.written _ hdated⟩

end MobileMoney
