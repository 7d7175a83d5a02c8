import MobileMoney.Reconciliation.Report
import MobileMoney.Record.Basic

/-!
# Reconciliation records

Snapshots and reports as documents.
-/

namespace MobileMoney

namespace PaymentRecord

def toJson (payment : PaymentRecord) : Json :=
  .object [
    ("id", .text payment.id),
    ("amount", payment.amount.toJson),
    ("status", payment.status.toJson),
    ("provider", .optional Provider.toJson payment.provider),
    ("reference", .optionalText payment.reference),
    ("paid_at", .optional Instant.toJson payment.paidAt)]

def ofJson? (record : Json) : Option PaymentRecord := do
  match ← record.slots? ["id", "amount", "status", "provider", "reference", "paid_at"] with
  | [id, amount, status, provider, reference, paidAt] =>
    return ⟨← id.required? Json.text?, ← amount.required? Money.ofJson?,
      ← status.required? PaymentStatus.ofJson?, ← provider.trailing? Provider.ofJson?,
      ← reference.trailing? Json.text?, ← paidAt.trailing? Instant.ofJson?⟩
  | _ => none

end PaymentRecord

namespace InvoiceStatus

def toJson (status : InvoiceStatus) : Json :=
  .text status.code

def ofJson? : Json → Option InvoiceStatus :=
  Json.named? ofCode?

end InvoiceStatus

namespace InvoiceRecord

def toJson (invoice : InvoiceRecord) : Json :=
  .object [
    ("id", .text invoice.id),
    ("amount_due", invoice.due.toJson),
    ("status", invoice.status.toJson),
    ("due_date", .optional Date.toJson invoice.dueDate)]

def ofJson? (record : Json) : Option InvoiceRecord := do
  match ← record.slots? ["id", "amount_due", "status", "due_date"] with
  | [id, due, status, date] =>
    return ⟨← id.required? Json.text?, ← due.required? Money.ofJson?,
      ← status.required? InvoiceStatus.ofJson?, ← date.trailing? Date.ofJson?⟩
  | _ => none

end InvoiceRecord

namespace Reconciliation

namespace Match

def toJson (entry : Match) : Json :=
  .object [
    ("payment_id", .text entry.paymentId),
    ("invoice_id", .text entry.invoiceId),
    ("amount", entry.amount.toJson),
    ("match_type", .text entry.type.code)]

def ofJson? (record : Json) : Option Match := do
  match ← record.slots? ["payment_id", "invoice_id", "amount", "match_type"] with
  | [paymentId, invoiceId, amount, type] =>
    return ⟨← paymentId.required? Json.text?, ← invoiceId.required? Json.text?,
      ← amount.required? Money.ofJson?, ← type.required? (Json.named? MatchType.ofCode?)⟩
  | _ => none

end Match

namespace ReportException

def toJson (entry : ReportException) : Json :=
  .object [
    ("exception_type", .text entry.type.code),
    ("entity_id", .text entry.entityId),
    ("amount", entry.amount.toJson),
    ("description", .text entry.description)]

def ofJson? (record : Json) : Option ReportException := do
  match ← record.slots? ["exception_type", "entity_id", "amount", "description"] with
  | [type, entityId, amount, description] =>
    return ⟨← type.required? (Json.named? ExceptionType.ofCode?), ← entityId.required? Json.text?,
      ← amount.required? Money.ofJson?, ← description.required? Json.text?⟩
  | _ => none

end ReportException

def Summary.toJson (summary : Summary) : Json :=
  .object [
    ("payments_considered", .nat summary.payments),
    ("invoices_considered", .nat summary.invoices),
    ("exact_matches", .nat summary.exact),
    ("partial_matches", .nat summary.partly),
    ("overpayment_matches", .nat summary.overpayments),
    ("unmatched_payments", .nat summary.unmatchedPayments),
    ("unmatched_invoices", .nat summary.unmatchedInvoices),
    ("amount_mismatches", .nat summary.amountMismatches),
    ("matched_minor_units",
      .object (summary.matchedMinor.map fun (code, total) ↦ (code, .nat total)))]

def Report.members (report : Report) : List (String × Json) := [
  ("matches", .array (report.paired.map Match.toJson)),
  ("exceptions", .array (report.exceptions.map ReportException.toJson)),
  ("summary", report.summary.toJson)]

def Report.toJson (report : Report) : Json :=
  .object report.members

end Reconciliation

end MobileMoney
