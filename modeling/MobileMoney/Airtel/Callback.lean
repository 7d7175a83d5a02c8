import MobileMoney.Callback.Payload

/-!
# Airtel Money notifications

A notification carries the transaction under `transaction`, with the identifier that was sent as its
reference.
-/

namespace MobileMoney.Airtel

def succeededCode : String := "TS"

/-- Codes of a transaction that is in progress or not certain yet. -/
def openCodes : List String := ["TIP", "TA"]

/-- What a status code says: none while the payment is pending, and an unknown one is a failure. -/
def statusOfCode (code : Option String) : PaymentStatus :=
  match (code.bind Text.nonBlank?).map Text.trim with
  | none => .pending
  | some code =>
    if code ∈ openCodes then .pending else if code = succeededCode then .succeeded else .failed

def parseCallback (receivedAt : Instant) (payload : ByteArray) :
    Except PaymentError CallbackEvent := do
  let (document, text) ← Payload.readDocument .airtelMoney payload
  let transaction ← Payload.require .airtelMoney "callback has no transaction"
    (document.member? "transaction")
  let id ← Payload.require .airtelMoney "callback has no transaction id"
    (transaction.scalarAt? ["id"])
  let code := transaction.scalarAt? ["status_code"]
  return {
    provider := .airtelMoney
    kind := .collection
    transactionId := id
    reference := some id
    status := statusOfCode code
    amount := none
    receiptNumber := transaction.scalarAt? ["airtel_money_id"]
    payerPhone := none
    transactionDate := none
    resultCode := code
    resultDescription := transaction.scalarAt? ["message"]
    payload := text
    receivedAt }

end MobileMoney.Airtel
