import MobileMoney.Money.Basic
import MobileMoney.Payment.Status
import MobileMoney.Provider
import MobileMoney.Time.Instant

/-!
# Callback events

The one form into which the notifications of all rails are brought.
-/

namespace MobileMoney

inductive CallbackKind where
  | collection
  | disbursement
deriving DecidableEq

namespace CallbackKind

def all : List CallbackKind := [collection, disbursement]

def code : CallbackKind → String
  | collection => "collection"
  | disbursement => "disbursement"

def ofCode? (code : String) : Option CallbackKind :=
  all.find? (·.code = code)

end CallbackKind

structure CallbackEvent where
  provider : Provider
  kind : CallbackKind
  transactionId : String
  reference : Option String
  status : PaymentStatus
  amount : Option Money
  receiptNumber : Option String
  payerPhone : Option String
  transactionDate : Option String
  resultCode : Option String
  resultDescription : Option String
  payload : String
  receivedAt : Instant
deriving DecidableEq

def CallbackEvent.withAmount (event : CallbackEvent) (amount : Option Money) : CallbackEvent :=
  { event with amount }

end MobileMoney
