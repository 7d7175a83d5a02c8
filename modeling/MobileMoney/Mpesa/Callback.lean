import MobileMoney.Callback.Payload
import MobileMoney.Mpesa.Config

/-!
# M-Pesa notifications

The answer of a payer to a prompt stands under `Body.stkCallback`, the result of a disbursement
under `Result`.  Both carry a list of named values, of which the first with a name counts.
-/

namespace MobileMoney.Mpesa

/-- What a result code says: none while the payment is pending. -/
def statusOfCode : Option String → PaymentStatus
  | none => .pending
  | some code =>
    if code = "0" then .succeeded else if code = "1032" then .cancelled else .failed

def hasName (nameKey name : String) (item : Json) : Bool :=
  (item.member? nameKey).bind Json.text? == some name

/-- The value of the first entry with a name. -/
def namedValue? (items : List Json) (nameKey name : String) : Option String :=
  (items.find? (hasName nameKey name)).bind (·.scalarAt? ["Value"])

def itemsAt (document : Json) (path : List String) : List Json :=
  ((document.at? path).bind Json.items?).getD []

def readPromptAnswer (receivedAt : Instant) (payload : String) (answer : Json) :
    Except PaymentError Notice := do
  let id ← Payload.require .mpesa "callback has no CheckoutRequestID"
    (answer.scalarAt? ["CheckoutRequestID"])
  let item := namedValue? (itemsAt answer ["CallbackMetadata", "Item"]) "Name"
  let code := answer.scalarAt? ["ResultCode"]
  return {
    amount := item "Amount"
    event := {
      provider := .mpesa
      kind := .collection
      transactionId := id
      reference := answer.scalarAt? ["MerchantRequestID"]
      status := statusOfCode code
      amount := none
      receiptNumber := item "MpesaReceiptNumber"
      payerPhone := item "PhoneNumber"
      transactionDate := item "TransactionDate"
      resultCode := code
      resultDescription := answer.scalarAt? ["ResultDesc"]
      payload
      receivedAt } }

/-- The characters before the first hyphen between two spaces. -/
def beforeSeparator : List Char → List Char
  | ' ' :: '-' :: ' ' :: _ => []
  | c :: rest => c :: beforeSeparator rest
  | [] => []

/-- The phone number in a public name such as `254722000000 - Jane Doe`. -/
def phoneOfPublicName? (name : String) : Option String :=
  (Text.nonBlank? (String.ofList (beforeSeparator name.toList))).map Text.trim

def readPayoutResult (receivedAt : Instant) (payload : String) (result : Json) :
    Except PaymentError Notice := do
  let id ← Payload.require .mpesa "result has no ConversationID"
    (result.scalarAt? ["ConversationID"])
  let item := namedValue? (itemsAt result ["ResultParameters", "ResultParameter"]) "Key"
  let code := result.scalarAt? ["ResultCode"]
  return {
    amount := item "TransactionAmount"
    event := {
      provider := .mpesa
      kind := .disbursement
      transactionId := id
      reference := result.scalarAt? ["OriginatorConversationID"]
      status := statusOfCode code
      amount := none
      receiptNumber := (item "TransactionReceipt").or (result.scalarAt? ["TransactionID"])
      payerPhone := (item "ReceiverPartyPublicName").bind phoneOfPublicName?
      transactionDate := item "TransactionCompletedDateTime"
      resultCode := code
      resultDescription := result.scalarAt? ["ResultDesc"]
      payload
      receivedAt } }

def readNotice (receivedAt : Instant) (payload : ByteArray) : Except PaymentError Notice := do
  let (document, text) ← Payload.readDocument .mpesa payload
  match document.at? ["Body", "stkCallback"] with
  | some answer => readPromptAnswer receivedAt text answer
  | none =>
    match document.member? "Result" with
    | some result => readPayoutResult receivedAt text result
    | none =>
      throw (.callback .mpesa "callback is neither an STK callback nor a B2C result")

def parseCallback (receivedAt : Instant) (payload : ByteArray) :
    Except PaymentError CallbackEvent := do
  let notice ← readNotice receivedAt payload
  notice.complete rules.currency

/-- The same within the capacity of a machine; none where it is aborted. -/
def parseCallback? (capacity : Nat) (receivedAt : Instant) (payload : ByteArray) :
    Option (Except PaymentError CallbackEvent) :=
  Payload.andThen? (readNotice receivedAt payload) (·.complete? capacity rules.currency)

end MobileMoney.Mpesa
