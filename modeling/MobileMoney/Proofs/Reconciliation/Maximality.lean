import MobileMoney.Proofs.Reconciliation.Joins

/-!
# Reports are maximal

Nothing is left over that could still be matched, and a match outside the tolerance takes no invoice
from a payment within it.  Both follow from what is free when a payment chooses: the free invoices
only become fewer, and a choice within the tolerance is the first that was free.
-/

namespace MobileMoney.Reconciliation

/-- Amounts of one currency that differ by no more than the tolerance. -/
def IsWithin (tolerance : Nat) (paid due : Money) : Prop :=
  paid.currency = due.currency ∧ distance paid due ≤ tolerance

/-- A report that leaves over no payment together with an invoice that it could be matched with. -/
def Report.IsExhaustive (fits : Money → Money → Prop) (report : Report) : Prop :=
  ∀ paid ∈ report.exceptions, paid.type = .unmatchedPayment →
    ∀ due ∈ report.exceptions, due.type = .unmatchedInvoice → ¬ fits paid.amount due.amount

/-- Joins of which none outside the tolerance takes an invoice before a payment within it could. -/
def NeverSteals (tolerance : Nat) (payments : List PaymentRecord) (joins : List Join) : Prop :=
  ∀ join ∈ joins, tolerance < distance join.payment.amount join.invoice.due →
    ∀ position payment, (payments.filter (·.isSucceeded))[position]? = some payment →
      IsWithin tolerance payment.amount join.invoice.due →
        ∃ other ∈ joins, other.paymentPosition = position ∧
          IsWithin tolerance other.payment.amount other.invoice.due ∧
          other.invoicePosition < join.invoicePosition

theorem withinTolerance_iff {tolerance : Nat} {payment : PaymentRecord} {invoice : InvoiceRecord} :
    withinTolerance tolerance payment invoice = true ↔
      IsWithin tolerance payment.amount invoice.due := by
  simp [withinTolerance, sameCurrency, Money.sameCurrency, IsWithin]

section

variable {settings : ReconciliationSettings} {payments : List PaymentRecord}
  {invoices : List InvoiceRecord}

/-! ## What is left over -/

theorem exists_row_of_unmatchedPayment {left : ReportException}
    (hleft : left ∈ (reconcile settings payments invoices).exceptions)
    (htype : left.type = .unmatchedPayment) :
    ∃ payment, ⟨payment, none⟩ ∈ (pair settings payments invoices).rows ∧
      left.amount = payment.amount := by
  rw [(reconcile_isReportOf settings payments invoices).exceptions.mem_iff,
    unjoined_succeeded] at hleft
  simp only [List.mem_append, List.mem_map, List.mem_filter, Option.isNone_iff_eq_none] at hleft
  obtain (⟨payment, ⟨⟨_, _ | choice⟩, ⟨hrow, hnone⟩, rfl⟩, rfl⟩ | ⟨invoice, -, rfl⟩) |
    ⟨join, -, rfl⟩ := hleft
  · exact ⟨_, hrow, rfl⟩
  · simp [Row.candidate?] at hnone
  · simp [unmatchedInvoice] at htype
  · simp [amountMismatch] at htype

theorem exists_free_of_unmatchedInvoice {left : ReportException}
    (hleft : left ∈ (reconcile settings payments invoices).exceptions)
    (htype : left.type = .unmatchedInvoice) :
    ∃ c ∈ (pair settings payments invoices).free, left.amount = c.invoice.due := by
  rw [(reconcile_isReportOf settings payments invoices).exceptions.mem_iff,
    unjoined_invoices] at hleft
  simp only [List.mem_append, List.mem_map] at hleft
  obtain (⟨payment, -, rfl⟩ | ⟨invoice, ⟨c, hc, rfl⟩, rfl⟩) | ⟨join, -, rfl⟩ := hleft
  · simp [unmatchedPayment] at htype
  · exact ⟨c, hc, rfl⟩
  · simp [amountMismatch] at htype

/-- Whatever the fallback, nothing left over is within the tolerance. -/
theorem reconcile_isExhaustive_isWithin :
    (reconcile settings payments invoices).IsExhaustive (IsWithin settings.tolerance) := by
  intro paid hpaid hpaidType due hdue hdueType
  obtain ⟨payment, hrow, hpayment⟩ := exists_row_of_unmatchedPayment hpaid hpaidType
  obtain ⟨c, hc, hinvoice⟩ := exists_free_of_unmatchedInvoice hdue hdueType
  rw [hpayment, hinvoice, ← withinTolerance_iff, Bool.not_eq_true]
  cases pair_settled settings payments invoices hrow with
  | unmatched far _ =>
    exact far c ((pair_free_sublist_firstPass settings payments invoices).subset hc)

theorem reconcile_isExhaustive_currency (hfallback : settings.matchOutsideTolerance = true) :
    (reconcile settings payments invoices).IsExhaustive
      fun paid due ↦ paid.currency = due.currency := by
  intro paid hpaid hpaidType due hdue hdueType
  obtain ⟨payment, hrow, hpayment⟩ := exists_row_of_unmatchedPayment hpaid hpaidType
  obtain ⟨c, hc, hinvoice⟩ := exists_free_of_unmatchedInvoice hdue hdueType
  rw [hpayment, hinvoice]
  cases pair_settled settings payments invoices hrow with
  | unmatched _ foreign => exact of_decide_eq_false (foreign hfallback c hc)

/-! ## How much is matched -/

section

variable {fits : Money → Money → Prop} (kind : Money → Bool)

/-- Of amounts that all fit each other an exhaustive report leaves over payments only or invoices
only. -/
theorem unjoined_kind_eq_zero
    (hexhaustive : (reconcile settings payments invoices).IsExhaustive fits)
    (hkind : ∀ paid due, kind paid = true → kind due = true → fits paid due) :
    (unjoined ((joins settings payments invoices).map Join.paymentPosition)
        (payments.filter (·.isSucceeded))).countP (fun payment ↦ kind payment.amount) = 0 ∨
      (unjoined ((joins settings payments invoices).map Join.invoicePosition)
        (invoices.filter (·.isOpen))).countP (fun invoice ↦ kind invoice.due) = 0 := by
  by_contra hnot
  rw [not_or, ← ne_eq, ← ne_eq, ← Nat.pos_iff_ne_zero, ← Nat.pos_iff_ne_zero,
    List.countP_pos_iff, List.countP_pos_iff] at hnot
  obtain ⟨⟨payment, hpayment, hpaid⟩, invoice, hinvoice, hdue⟩ := hnot
  have hexceptions := (reconcile_isReportOf settings payments invoices).exceptions
  refine hexhaustive (unmatchedPayment payment) (hexceptions.mem_iff.mpr ?_) rfl
    (unmatchedInvoice invoice) (hexceptions.mem_iff.mpr ?_) rfl (hkind _ _ hpaid hdue)
  · simpa using Or.inl ⟨payment, hpayment, rfl⟩
  · simpa using Or.inr (Or.inl ⟨invoice, hinvoice, rfl⟩)

/-- Amounts that all fit each other, and are joined to each other only, are joined as often as they
can be. -/
theorem countP_joins_kind (hexhaustive : (reconcile settings payments invoices).IsExhaustive fits)
    (hkind : ∀ paid due, kind paid = true → kind due = true → fits paid due)
    (hsame : ∀ join ∈ joins settings payments invoices,
      kind join.payment.amount = kind join.invoice.due) :
    (joins settings payments invoices).countP (fun join ↦ kind join.payment.amount) =
      min ((payments.filter (·.isSucceeded)).countP fun payment ↦ kind payment.amount)
        ((invoices.filter (·.isOpen)).countP fun invoice ↦ kind invoice.due) := by
  have hpairing := joins_isPairing settings payments invoices
  have hpayments := hpairing.perm_payments.countP_eq fun payment ↦ kind payment.amount
  have hinvoices := hpairing.perm_invoices.countP_eq fun invoice ↦ kind invoice.due
  have hcount : (joins settings payments invoices).countP (fun join ↦ kind join.payment.amount) =
      (joins settings payments invoices).countP fun join ↦ kind join.invoice.due :=
    List.countP_congr fun join hjoin ↦ by rw [hsame join hjoin]
  have hleft := unjoined_kind_eq_zero kind hexhaustive hkind
  rw [List.countP_append, List.countP_map] at hpayments hinvoices
  simp only [Function.comp_def] at hpayments hinvoices
  omega

end

theorem countP_paired_currency (hfallback : settings.matchOutsideTolerance = true)
    (currency : Currency) :
    (reconcile settings payments invoices).paired.countP (·.amount.currency = currency) =
      min ((payments.filter (·.isSucceeded)).countP (·.amount.currency = currency))
        ((invoices.filter (·.isOpen)).countP (·.due.currency = currency)) := by
  rw [(reconcile_isReportOf settings payments invoices).paired, List.countP_map]
  refine countP_joins_kind (·.currency = currency) (reconcile_isExhaustive_currency hfallback)
    (fun paid due hpaid hdue ↦ ?_) fun join hjoin ↦ ?_
  · exact (of_decide_eq_true hpaid).trans (of_decide_eq_true hdue).symm
  · rw [(joins_isPairing settings payments invoices).same_currency join hjoin]

/-! ## What the fallback takes -/

theorem joins_neverSteals :
    NeverSteals settings.tolerance payments (joins settings payments invoices) := by
  intro join hjoin hfar position payment hpayment hwithin
  -- The invoice was still free after the first pass, for its join is outside the tolerance.
  obtain ⟨outside, -, hsettled⟩ := exists_row_of_mem_joins hjoin
  obtain rfl : outside = true := hsettled.outside_iff.mpr hfar
  have hspare : join.candidate ∈ (firstPass settings.tolerance payments invoices).free := by
    cases hsettled with
    | outside _ mem _ _ => exact mem
  rw [← withinTolerance_iff] at hwithin
  rw [← pair_payments settings payments invoices, List.getElem?_map,
    Option.map_eq_some_iff] at hpayment
  obtain ⟨row, hrow, rfl⟩ := hpayment
  cases pair_settled settings payments invoices (List.mem_of_getElem? hrow) with
  | unmatched far _ => exact absurd hwithin (Bool.not_eq_true _ ▸ far join.candidate hspare)
  | outside _ _ _ far => exact absurd hwithin (Bool.not_eq_true _ ▸ far join.candidate hspare)
  | @within payment c fit first =>
    refine ⟨⟨position, payment, c.position, c.invoice⟩, ?_, rfl, withinTolerance_iff.mp fit,
      first join.candidate hspare hwithin⟩
    exact Sheet.mem_joins.mpr ⟨_, hrow, rfl, rfl⟩

end

/-- **Maximality.** Without the fallback nothing left over is within the tolerance.  With it nothing
left over shares a currency, and each currency has as many matches as it can have.  The fallback
takes an invoice only when every payment within its tolerance has one that stands before it. -/
theorem reconcile_maximal (settings : ReconciliationSettings) (payments : List PaymentRecord)
    (invoices : List InvoiceRecord) :
    (settings.matchOutsideTolerance = false →
      (reconcile settings payments invoices).IsExhaustive (IsWithin settings.tolerance)) ∧
    (settings.matchOutsideTolerance = true →
      (reconcile settings payments invoices).IsExhaustive
          (fun paid due ↦ paid.currency = due.currency) ∧
        ∀ currency : Currency,
          (reconcile settings payments invoices).paired.countP (·.amount.currency = currency) =
            min ((payments.filter (·.isSucceeded)).countP (·.amount.currency = currency))
              ((invoices.filter (·.isOpen)).countP (·.due.currency = currency))) ∧
    (reconcile settings payments invoices).paired =
        (joins settings payments invoices).map Join.entry ∧
      IsPairing payments invoices (joins settings payments invoices) ∧
      NeverSteals settings.tolerance payments (joins settings payments invoices) := by
  refine ⟨fun _ ↦ reconcile_isExhaustive_isWithin, fun hfallback ↦ ?_, ?_, ?_, joins_neverSteals⟩
  · exact ⟨reconcile_isExhaustive_currency hfallback, countP_paired_currency hfallback⟩
  · exact (reconcile_isReportOf settings payments invoices).paired
  · exact joins_isPairing settings payments invoices

end MobileMoney.Reconciliation
