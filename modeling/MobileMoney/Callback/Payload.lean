import MobileMoney.Callback.Event
import MobileMoney.Json.Reader
import MobileMoney.Payment.Error
import MobileMoney.Text.Lossy

/-!
# Payloads

The bytes of a notification, read as a document, and the amounts in it.  An amount is the last
thing that is read, and the only one whose reading a machine may have to abort.
-/

namespace MobileMoney.Payload

/-- The document, and the payload as text. -/
def readDocument (provider : Provider) (payload : ByteArray) :
    Except PaymentError (Json × String) :=
  match Json.documentOfBytes? payload with
  | some document => .ok (document, Text.lossy payload)
  | none => .error (.callback provider "invalid callback JSON: unexpected document")

def amountOf (provider : Provider) : Except MoneyError Money → Except PaymentError (Option Money)
  | .ok money => .ok (some money)
  | .error error =>
    let reason := error.message
    .error (.callback provider s!"invalid amount: {reason}")

def readAmount (provider : Provider) (currency : String) :
    Option String → Except PaymentError (Option Money)
  | none => .ok none
  | some text => amountOf provider (Money.ofMajorText text currency)

/-- The same within the capacity of a machine; none where the amount cannot be computed. -/
def readAmount? (capacity : Nat) (provider : Provider) (currency : String) :
    Option String → Option (Except PaymentError (Option Money))
  | none => some (.ok none)
  | some text => (Money.ofMajorText? capacity text currency).map (amountOf provider)

/-- A part that a notification must have. -/
def require (provider : Provider) (complaint : String) : Option α → Except PaymentError α
  | some value => .ok value
  | none => .error (.callback provider complaint)

/-- Goes on with what a step gives, unless it complains. -/
def andThen? (step : Except PaymentError α) (next : α → Option (Except PaymentError β)) :
    Option (Except PaymentError β) :=
  match step with
  | .ok value => next value
  | .error error => some (.error error)

end MobileMoney.Payload

namespace MobileMoney

/-- A notification that has been read but for its amount, which is still a text. -/
structure Notice where
  event : CallbackEvent
  amount : Option String

namespace Notice

def completeWith (notice : Notice) (amount : Except PaymentError (Option Money)) :
    Except PaymentError CallbackEvent := do
  return notice.event.withAmount (← amount)

/-- The event with its amount. -/
def complete (currency : String) (notice : Notice) : Except PaymentError CallbackEvent :=
  notice.completeWith (Payload.readAmount notice.event.provider currency notice.amount)

/-- The same within the capacity of a machine; none where the amount cannot be computed. -/
def complete? (capacity : Nat) (currency : String) (notice : Notice) :
    Option (Except PaymentError CallbackEvent) :=
  (Payload.readAmount? capacity notice.event.provider currency notice.amount).map
    notice.completeWith

end Notice

end MobileMoney
