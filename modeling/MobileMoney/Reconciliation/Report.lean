import MobileMoney.Reconciliation.Pairing

/-!
# Reconciliation reports

What a pairing means: a match for every paired payment, an exception for every payment or invoice
that is left over and for every match outside the tolerance, and a summary.  Matched amounts are
counted for each currency in words of 64 bits: where additions are checked, a total that does not
fit aborts the run (`reconcile?`), and where they are not, it wraps (`reconcile`).
-/

namespace MobileMoney.Reconciliation

inductive MatchType where
  | exact
  | partly
  | overpayment
deriving DecidableEq

namespace MatchType

def all : List MatchType := [exact, partly, overpayment]

def code : MatchType → String
  | exact => "EXACT"
  | partly => "PARTIAL"
  | overpayment => "OVERPAYMENT"

def ofCode? (code : String) : Option MatchType :=
  all.find? (·.code = code)

def of (paid due : Nat) : MatchType :=
  if paid = due then exact else if paid < due then partly else overpayment

end MatchType

structure Match where
  paymentId : String
  invoiceId : String
  amount : Money
  type : MatchType
deriving DecidableEq

inductive ExceptionType where
  | unmatchedPayment
  | unmatchedInvoice
  | amountMismatch
deriving DecidableEq

namespace ExceptionType

def all : List ExceptionType := [unmatchedPayment, unmatchedInvoice, amountMismatch]

def code : ExceptionType → String
  | unmatchedPayment => "UNMATCHED_PAYMENT"
  | unmatchedInvoice => "UNMATCHED_INVOICE"
  | amountMismatch => "AMOUNT_MISMATCH"

def ofCode? (code : String) : Option ExceptionType :=
  all.find? (·.code = code)

end ExceptionType

structure ReportException where
  type : ExceptionType
  entityId : String
  amount : Money
  description : String
deriving DecidableEq

/-- The smaller of two amounts, in the currency of the first. -/
def smaller (paid due : Money) : Money :=
  paid.withMinor (min paid.minor due.minor) (by have := paid.minor_lt; omega)

/-- The difference of two amounts, in the currency of the first. -/
def difference (paid due : Money) : Money :=
  paid.withMinor (distance paid due) (by
    have := paid.minor_lt
    have := due.minor_lt
    unfold distance
    omega)

def matchOf (payment : PaymentRecord) (invoice : InvoiceRecord) : Match :=
  ⟨payment.id, invoice.id, smaller payment.amount invoice.due,
    .of payment.amount.minor invoice.due.minor⟩

def unmatchedPayment (payment : PaymentRecord) : ReportException :=
  let currency := payment.amount.currency.code
  let amount := payment.amount.display
  ⟨.unmatchedPayment, payment.id, payment.amount,
    s!"no open {currency} invoice for payment of {amount}"⟩

def amountMismatch (payment : PaymentRecord) (invoice : InvoiceRecord) : ReportException :=
  let amount := payment.amount.display
  let invoiceId := invoice.id
  let due := invoice.due.display
  ⟨.amountMismatch, payment.id, difference payment.amount invoice.due,
    s!"payment of {amount} matched to invoice {invoiceId} due {due}"⟩

def unmatchedInvoice (invoice : InvoiceRecord) : ReportException :=
  let due := invoice.due.display
  ⟨.unmatchedInvoice, invoice.id, invoice.due, s!"no payment found for invoice due {due}"⟩

namespace Row

def match? (row : Row) : Option Match :=
  row.choice.map fun choice ↦ matchOf row.payment choice.candidate.invoice

def exception? (row : Row) : Option ReportException :=
  match row.choice with
  | none => some (unmatchedPayment row.payment)
  | some choice =>
    if choice.outsideTolerance then some (amountMismatch row.payment choice.candidate.invoice)
    else none

end Row

/-- Amounts by currency, in the order of the codes. -/
abbrev Totals := List (String × Nat)

namespace Totals

/-- One more than the greatest total. -/
def modulus : Nat := UInt64.size

/-- Adds to the total of a currency. -/
def add (code : String) (amount : Nat) : Totals → Totals
  | [] => [(code, amount)]
  | (other, total) :: rest =>
    if code = other then (other, (total + amount) % modulus) :: rest
    else if code < other then (code, amount) :: (other, total) :: rest
    else (other, total) :: add code amount rest

def ofMatches (found : List Match) : Totals :=
  found.foldl (fun totals entry ↦ add entry.amount.currency.code entry.amount.minor totals) []

/-- Adds to the total of a currency, unless the sum does not fit. -/
def add? (code : String) (amount : Nat) (totals : Totals) : Option Totals :=
  if (totals.lookup code).getD 0 + amount < modulus then some (add code amount totals) else none

def ofMatches? (found : List Match) : Option Totals :=
  found.foldlM (fun totals entry ↦ add? entry.amount.currency.code entry.amount.minor totals) []

end Totals

structure Summary where
  payments : Nat
  invoices : Nat
  exact : Nat
  partly : Nat
  overpayments : Nat
  unmatchedPayments : Nat
  unmatchedInvoices : Nat
  amountMismatches : Nat
  matchedMinor : Totals
deriving DecidableEq

structure Report where
  paired : List Match
  exceptions : List ReportException
  summary : Summary
deriving DecidableEq

def countMatches (found : List Match) (type : MatchType) : Nat :=
  found.countP (·.type = type)

def countExceptions (exceptions : List ReportException) (type : ExceptionType) : Nat :=
  exceptions.countP (·.type = type)

def summarize (payments invoices : Nat) (found : List Match) (exceptions : List ReportException) :
    Summary where
  payments
  invoices
  exact := countMatches found .exact
  partly := countMatches found .partly
  overpayments := countMatches found .overpayment
  unmatchedPayments := countExceptions exceptions .unmatchedPayment
  unmatchedInvoices := countExceptions exceptions .unmatchedInvoice
  amountMismatches := countExceptions exceptions .amountMismatch
  matchedMinor := .ofMatches found

def reconcile (settings : ReconciliationSettings) (payments : List PaymentRecord)
    (invoices : List InvoiceRecord) : Report :=
  let sheet := pair settings payments invoices
  let found := sheet.rows.filterMap Row.match?
  let exceptions := sheet.rows.filterMap Row.exception? ++
    sheet.free.map fun candidate ↦ unmatchedInvoice candidate.invoice
  ⟨found, exceptions, summarize (payments.countP (·.isSucceeded)) (invoices.countP (·.isOpen))
    found exceptions⟩

/-- The report where additions are checked: the run is aborted, and there is none, where a total
does not fit. -/
def reconcile? (settings : ReconciliationSettings) (payments : List PaymentRecord)
    (invoices : List InvoiceRecord) : Option Report :=
  let report := reconcile settings payments invoices
  (Totals.ofMatches? report.paired).map fun matchedMinor ↦
    { report with summary := { report.summary with matchedMinor } }

end MobileMoney.Reconciliation
