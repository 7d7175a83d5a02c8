import MobileMoney.Callback.Payload
import MobileMoney.Markup.Element
import MobileMoney.Tigo.Config

/-!
# Tigo Pesa notifications

A notification is a flat document with an identifier and a status.
-/

namespace MobileMoney.Tigo

/-- What a status says, in any case; an unknown one is a failure. -/
def statusOfText (status : String) : PaymentStatus :=
  let status := Text.upper (Text.trim status)
  if status ∈ ["SUCCESS", "SUCCESSFUL"] then .succeeded
  else if status = "PENDING" then .pending
  else if status ∈ ["CANCELLED", "CANCELED"] then .cancelled
  else .failed

def readText (payload : ByteArray) : Except PaymentError String :=
  match String.fromUTF8? payload with
  | some text => .ok text
  | none => .error (.callback .tigoPesa "callback body is not valid UTF-8")

def readNotice (receivedAt : Instant) (payload : ByteArray) : Except PaymentError Notice := do
  let text ← readText payload
  let element := Markup.extract? text
  let id ← Payload.require .tigoPesa "callback has no TXNID" (element "TXNID")
  let status ← Payload.require .tigoPesa "callback has no STATUS" (element "STATUS")
  return {
    amount := element "AMOUNT"
    event := {
      provider := .tigoPesa
      kind := .collection
      transactionId := id
      reference := element "CUSTOMERREFERENCEID"
      status := statusOfText status
      amount := none
      receiptNumber := element "REFERENCEID"
      payerPhone := element "MSISDN"
      transactionDate := none
      resultCode := some status
      resultDescription := element "MESSAGE"
      payload := text
      receivedAt } }

def parseCallback (receivedAt : Instant) (payload : ByteArray) :
    Except PaymentError CallbackEvent := do
  let notice ← readNotice receivedAt payload
  notice.complete rules.currency

/-- The same within the capacity of a machine; none where it is aborted. -/
def parseCallback? (capacity : Nat) (receivedAt : Instant) (payload : ByteArray) :
    Option (Except PaymentError CallbackEvent) :=
  Payload.andThen? (readNotice receivedAt payload) (·.complete? capacity rules.currency)

end MobileMoney.Tigo
