import MobileMoney.Money.Basic
import MobileMoney.Payment.Status
import MobileMoney.Provider
import MobileMoney.Time.Instant

/-!
# Snapshots

The payments and the invoices that are compared.  Only succeeded payments and open invoices take
part.
-/

namespace MobileMoney

structure PaymentRecord where
  id : String
  amount : Money
  status : PaymentStatus
  provider : Option Provider
  reference : Option String
  paidAt : Option Instant
deriving DecidableEq

def PaymentRecord.isSucceeded (payment : PaymentRecord) : Bool :=
  payment.status = .succeeded

inductive InvoiceStatus where
  | draft
  | outstanding
  | partiallyPaid
  | overdue
  | paid
  | cancelled
deriving DecidableEq

namespace InvoiceStatus

def all : List InvoiceStatus := [draft, outstanding, partiallyPaid, overdue, paid, cancelled]

def code : InvoiceStatus → String
  | draft => "draft"
  | outstanding => "open"
  | partiallyPaid => "partially_paid"
  | overdue => "overdue"
  | paid => "paid"
  | cancelled => "cancelled"

def ofCode? (code : String) : Option InvoiceStatus :=
  all.find? (·.code = code)

def isSettled (status : InvoiceStatus) : Bool :=
  status = paid || status = cancelled

end InvoiceStatus

structure InvoiceRecord where
  id : String
  due : Money
  status : InvoiceStatus
  dueDate : Option Date
deriving DecidableEq

def InvoiceRecord.isOpen (invoice : InvoiceRecord) : Bool :=
  !invoice.status.isSettled && !invoice.due.isZero

end MobileMoney
