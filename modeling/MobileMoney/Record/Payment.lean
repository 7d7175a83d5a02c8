import MobileMoney.Callback.Event
import MobileMoney.Payment.Request
import MobileMoney.Payment.Response
import MobileMoney.Record.Basic

/-!
# Payment records

Requests, responses and events as documents.
-/

namespace MobileMoney

namespace CollectionRequest

def toJson (request : CollectionRequest) : Json :=
  .object [
    ("amount", request.amount.toJson),
    ("payer_phone", .text request.payerPhone),
    ("reference", .text request.reference),
    ("description", .optionalText request.description)]

def ofJson? (record : Json) : Option CollectionRequest := do
  match ← record.slots? ["amount", "payer_phone", "reference", "description"] with
  | [amount, phone, reference, description] =>
    return ⟨← amount.required? Money.ofJson?, ← phone.required? Json.text?,
      ← reference.required? Json.text?, ← description.optional? Json.text?⟩
  | _ => none

end CollectionRequest

namespace DisbursementPurpose

def toJson (purpose : DisbursementPurpose) : Json :=
  .text purpose.name

def ofJson? : Json → Option DisbursementPurpose :=
  Json.named? ofName?

end DisbursementPurpose

namespace DisbursementRequest

def toJson (request : DisbursementRequest) : Json :=
  .object [
    ("amount", request.amount.toJson),
    ("recipient_phone", .text request.recipientPhone),
    ("reference", .text request.reference),
    ("remarks", .text request.remarks),
    ("occasion", .optionalText request.occasion),
    ("command", request.purpose.toJson),
    ("initiator_name", .optionalText request.initiatorName),
    ("security_credential", .optionalText request.securityCredential)]

/-- A request without a command is a business payment. -/
def ofJson? (record : Json) : Option DisbursementRequest := do
  match ← record.slots? ["amount", "recipient_phone", "reference", "remarks", "occasion", "command",
    "initiator_name", "security_credential"] with
  | [amount, phone, reference, remarks, occasion, command, initiator, credential] =>
    return ⟨← amount.required? Money.ofJson?, ← phone.required? Json.text?,
      ← reference.required? Json.text?, ← remarks.required? Json.text?,
      ← occasion.optional? Json.text?, ← command.default? .business DisbursementPurpose.ofJson?,
      ← initiator.optional? Json.text?, ← credential.optional? Json.text?⟩
  | _ => none

end DisbursementRequest

namespace PaymentResponse

def toJson (response : PaymentResponse) : Json :=
  .object [
    ("provider", response.provider.toJson),
    ("status", response.status.toJson),
    ("provider_reference", .text response.providerReference),
    ("secondary_reference", .optionalText response.secondaryReference),
    ("reference", .text response.reference),
    ("customer_message", .optionalText response.customerMessage)]

def ofJson? (record : Json) : Option PaymentResponse := do
  match ← record.slots? ["provider", "status", "provider_reference", "secondary_reference",
    "reference", "customer_message"] with
  | [provider, status, providerReference, secondary, reference, message] =>
    return ⟨← provider.required? Provider.ofJson?, ← status.required? PaymentStatus.ofJson?,
      ← providerReference.required? Json.text?, ← secondary.optional? Json.text?,
      ← reference.required? Json.text?, ← message.optional? Json.text?⟩
  | _ => none

end PaymentResponse

namespace StatusResponse

def toJson (response : StatusResponse) : Json :=
  .object [
    ("provider", response.provider.toJson),
    ("provider_reference", .text response.providerReference),
    ("status", response.status.toJson),
    ("result_code", .optionalText response.resultCode),
    ("description", .optionalText response.description)]

def ofJson? (record : Json) : Option StatusResponse := do
  match ← record.slots? ["provider", "provider_reference", "status", "result_code",
    "description"] with
  | [provider, reference, status, code, description] =>
    return ⟨← provider.required? Provider.ofJson?, ← reference.required? Json.text?,
      ← status.required? PaymentStatus.ofJson?, ← code.optional? Json.text?,
      ← description.optional? Json.text?⟩
  | _ => none

end StatusResponse

namespace CallbackKind

def toJson (kind : CallbackKind) : Json :=
  .text kind.code

def ofJson? : Json → Option CallbackKind :=
  Json.named? ofCode?

end CallbackKind

namespace CallbackEvent

/-- All fields but the time of receipt. -/
def contentMembers (event : CallbackEvent) : List (String × Json) := [
  ("provider", event.provider.toJson),
  ("kind", event.kind.toJson),
  ("provider_transaction_id", .text event.transactionId),
  ("reference", .optionalText event.reference),
  ("status", event.status.toJson),
  ("amount", .optional Money.toJson event.amount),
  ("receipt_number", .optionalText event.receiptNumber),
  ("payer_phone", .optionalText event.payerPhone),
  ("transaction_date", .optionalText event.transactionDate),
  ("result_code", .optionalText event.resultCode),
  ("result_description", .optionalText event.resultDescription),
  ("raw_payload", .text event.payload)]

def toJson (event : CallbackEvent) : Json :=
  .object (event.contentMembers ++ [("received_at", event.receivedAt.toJson)])

def ofJson? (record : Json) : Option CallbackEvent := do
  match ← record.slots? ["provider", "kind", "provider_transaction_id", "reference", "status",
    "amount", "receipt_number", "payer_phone", "transaction_date", "result_code",
    "result_description", "raw_payload", "received_at"] with
  | [provider, kind, id, reference, status, amount, receipt, phone, date, code, description,
      payload, received] =>
    return ⟨← provider.required? Provider.ofJson?, ← kind.required? CallbackKind.ofJson?,
      ← id.required? Json.text?, ← reference.optional? Json.text?,
      ← status.required? PaymentStatus.ofJson?, ← amount.optional? Money.ofJson?,
      ← receipt.optional? Json.text?, ← phone.optional? Json.text?, ← date.optional? Json.text?,
      ← code.optional? Json.text?, ← description.optional? Json.text?,
      ← payload.required? Json.text?, ← received.required? Instant.ofJson?⟩
  | _ => none

end CallbackEvent

end MobileMoney
