import MobileMoney.Reconciliation.Snapshot
import MobileMoney.Settings.Basic

/-!
# Pairing payments with invoices

Payments choose in order.  Each takes the first free invoice of its currency that is within the
tolerance.  When all have chosen, each payment that found none may take the first free invoice of
its currency whatever the amount.
-/

namespace MobileMoney.Reconciliation

/-- The first element that fits, and the others. -/
def takeFirst? (fits : α → Bool) : List α → Option (α × List α)
  | [] => none
  | x :: rest =>
    if fits x then some (x, rest)
    else (takeFirst? fits rest).map fun (found, others) ↦ (found, x :: others)

/-- An open invoice and its position among the open invoices. -/
structure Candidate where
  invoice : InvoiceRecord
  position : Nat
deriving DecidableEq

structure Choice where
  candidate : Candidate
  outsideTolerance : Bool
deriving DecidableEq

/-- A succeeded payment and the invoice that it has chosen. -/
structure Row where
  payment : PaymentRecord
  choice : Option Choice
deriving DecidableEq

/-- The payments in order and the invoices that are still free, in order. -/
structure Sheet where
  rows : List Row
  free : List Candidate
deriving DecidableEq

/-- The difference of two amounts in minor units. -/
def distance (a b : Money) : Nat :=
  (a.minor - b.minor) + (b.minor - a.minor)

def sameCurrency (payment : PaymentRecord) (invoice : InvoiceRecord) : Bool :=
  payment.amount.sameCurrency invoice.due

def withinTolerance (tolerance : Nat) (payment : PaymentRecord) (invoice : InvoiceRecord) : Bool :=
  sameCurrency payment invoice && distance payment.amount invoice.due ≤ tolerance

/-- The rows after each payment without an invoice has taken the first free one that fits it. -/
def choose (fits : PaymentRecord → InvoiceRecord → Bool) (outsideTolerance : Bool) :
    List Row → List Candidate → Sheet
  | [], free => ⟨[], free⟩
  | row :: rest, free =>
    let found :=
      if row.choice.isSome then none
      else takeFirst? (fun candidate ↦ fits row.payment candidate.invoice) free
    match found with
    | some (candidate, others) =>
      let sheet := choose fits outsideTolerance rest others
      { sheet with rows := { row with choice := some ⟨candidate, outsideTolerance⟩ } :: sheet.rows }
    | none =>
      let sheet := choose fits outsideTolerance rest free
      { sheet with rows := row :: sheet.rows }

def blankRows (payments : List PaymentRecord) : List Row :=
  (payments.filter (·.isSucceeded)).map fun payment ↦ ⟨payment, none⟩

def candidates (invoices : List InvoiceRecord) : List Candidate :=
  (invoices.filter (·.isOpen)).zipIdx.map fun (invoice, position) ↦ ⟨invoice, position⟩

/-- The choices within the tolerance. -/
def firstPass (tolerance : Nat) (payments : List PaymentRecord) (invoices : List InvoiceRecord) :
    Sheet :=
  choose (withinTolerance tolerance) false (blankRows payments) (candidates invoices)

/-- The choices of the payments that are left. -/
def secondPass (sheet : Sheet) : Sheet :=
  choose sameCurrency true sheet.rows sheet.free

def pair (settings : ReconciliationSettings) (payments : List PaymentRecord)
    (invoices : List InvoiceRecord) : Sheet :=
  let sheet := firstPass settings.tolerance payments invoices
  if settings.matchOutsideTolerance then secondPass sheet else sheet

end MobileMoney.Reconciliation
