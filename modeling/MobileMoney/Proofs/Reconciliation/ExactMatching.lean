import Mathlib.Data.List.Perm.Subperm
import MobileMoney.Proofs.Reconciliation.FirstFit
import MobileMoney.Proofs.Reconciliation.Separation

/-!
# Exact matching

Without a tolerance and without the fallback only equal amounts are matched.  Then the first fit is
as good as any pairing: of each amount there are as many matches as there are payments or invoices
of it, whichever are fewer.  These numbers do not depend on the order of the records, and the whole
summary of a report follows from them.
-/

namespace MobileMoney.Reconciliation

/-- Only equal amounts are matched. -/
def strict : ReconciliationSettings := ⟨0, false⟩

/-- Joins of equal amounts only. -/
def AreExact (joins : List Join) : Prop :=
  ∀ join ∈ joins, join.payment.amount = join.invoice.due

theorem isWithin_zero_iff {paid due : Money} : IsWithin 0 paid due ↔ paid = due := by
  obtain ⟨paid, currency, hpaid⟩ := paid
  obtain ⟨due, currency', hdue⟩ := due
  have hdistance : (paid - due) + (due - paid) ≤ 0 ↔ paid = due := by omega
  rw [IsWithin, distance, hdistance, Money.mk.injEq, and_comm]

theorem smaller_self (amount : Money) : smaller amount amount = amount := by
  obtain ⟨minor, currency, hminor⟩ := amount
  simp [smaller, Money.withMinor]

section

variable (payments : List PaymentRecord) (invoices : List InvoiceRecord)

/-! ## Matches -/

theorem joins_strict_areExact : AreExact (joins strict payments invoices) := by
  intro join hjoin
  obtain ⟨outside, -, hsettled⟩ := exists_row_of_mem_joins hjoin
  cases hsettled with
  | within fit _ => exact isWithin_zero_iff.mp (withinTolerance_iff.mp fit)
  | outside fallback_on => cases fallback_on

variable {payments invoices} in
theorem AreExact.entry_amount {found : List Join} (h : AreExact found) :
    (found.map Join.entry).map Match.amount = found.map fun join ↦ join.payment.amount := by
  rw [List.map_map]
  refine List.map_congr_left fun join hjoin ↦ ?_
  calc
    join.entry.amount = smaller join.payment.amount join.invoice.due := rfl
    _ = join.payment.amount := by rw [← h join hjoin, smaller_self]

theorem paired_strict_amounts :
    (reconcile strict payments invoices).paired.map Match.amount =
      (joins strict payments invoices).map fun join ↦ join.payment.amount := by
  rw [(reconcile_isReportOf strict payments invoices).paired]
  exact (joins_strict_areExact payments invoices).entry_amount

theorem paired_strict_type :
    ∀ entry ∈ (reconcile strict payments invoices).paired, entry.type = .exact := by
  rw [(reconcile_isReportOf strict payments invoices).paired, List.forall_mem_map]
  intro join hjoin
  have hsame := joins_strict_areExact payments invoices join hjoin
  change MatchType.of join.payment.amount.minor join.invoice.due.minor = .exact
  rw [hsame, MatchType.of, if_pos rfl]

theorem exceptions_strict_type :
    ∀ exception ∈ (reconcile strict payments invoices).exceptions,
      exception.type ≠ .amountMismatch := by
  have hnear : (joins strict payments invoices).filter (Join.isFar strict.tolerance) = [] := by
    rw [List.filter_eq_nil_iff]
    intro join hjoin
    have hwithin := isWithin_zero_iff.mpr (joins_strict_areExact payments invoices join hjoin)
    rw [Join.isFar, decide_eq_true_iff]
    exact Nat.not_lt.mpr hwithin.2
  intro exception hexception
  rw [(reconcile_isReportOf strict payments invoices).exceptions.mem_iff, hnear, List.map_nil,
    List.append_nil, List.mem_append, List.mem_map, List.mem_map] at hexception
  rcases hexception with ⟨payment, -, rfl⟩ | ⟨invoice, -, rfl⟩ <;> exact fun h ↦ by cases h

/-- Of every amount there are as many matches as there can be. -/
theorem count_paired_strict (amount : Money) :
    ((reconcile strict payments invoices).paired.map Match.amount).count amount =
      min ((paidAmounts payments).count amount) ((dueAmounts invoices).count amount) := by
  rw [paired_strict_amounts, paidAmounts, dueAmounts, List.count_eq_countP, List.count_eq_countP,
    List.count_eq_countP, List.countP_map, List.countP_map, List.countP_map]
  refine countP_joins_kind (· == amount) reconcile_isExhaustive_isWithin
    (fun paid due hpaid hdue ↦ ?_) fun join hjoin ↦ ?_
  · exact isWithin_zero_iff.mpr ((beq_iff_eq.mp hpaid).trans (beq_iff_eq.mp hdue).symm)
  · rw [joins_strict_areExact payments invoices join hjoin]

/-! ## Other pairings -/

variable {payments invoices} in
/-- An exact pairing has of every amount at most as many joins as there are records of it. -/
theorem IsPairing.count_le {pairing : List Join} (h : IsPairing payments invoices pairing)
    (hexact : AreExact pairing) (amount : Money) :
    (pairing.map fun join ↦ join.payment.amount).count amount ≤
      min ((paidAmounts payments).count amount) ((dueAmounts invoices).count amount) := by
  have hpaid := (h.perm_payments.map PaymentRecord.amount).count_eq amount
  have hdue := (h.perm_invoices.map InvoiceRecord.due).count_eq amount
  have hsame : pairing.map (fun join ↦ join.payment.amount) =
      pairing.map fun join ↦ join.invoice.due := List.map_congr_left hexact
  rw [List.map_append, List.count_append, List.map_map] at hpaid hdue
  rw [paidAmounts, dueAmounts, ← hpaid, ← hdue]
  apply Nat.le_min.mpr
  constructor
  · exact Nat.le_add_right _ _
  · rw [hsame]
    exact Nat.le_add_right _ _

variable {payments invoices} in
/-- Exact pairings match no more than the first fit, of any amount. -/
theorem IsPairing.subperm_paired {pairing : List Join} (h : IsPairing payments invoices pairing)
    (hexact : AreExact pairing) :
    (pairing.map fun join ↦ join.payment.amount).Subperm
      ((reconcile strict payments invoices).paired.map Match.amount) := by
  rw [List.subperm_iff_count]
  intro amount
  rw [count_paired_strict]
  exact h.count_le hexact amount

/-! ## The order of the records -/

/-- The summary of a report by the amounts that are matched. -/
theorem summary_strict :
    (reconcile strict payments invoices).summary =
      let found := (reconcile strict payments invoices).paired
      { payments := payments.countP (·.isSucceeded)
        invoices := invoices.countP (·.isOpen)
        exact := found.length
        partly := 0
        overpayments := 0
        unmatchedPayments := payments.countP (·.isSucceeded) - found.length
        unmatchedInvoices := invoices.countP (·.isOpen) - found.length
        amountMismatches := 0
        matchedMinor := .ofMatches found } := by
  have hreport := reconcile_isReportOf strict payments invoices
  have hbalanced := hreport.isBalanced (joins_isPairing strict payments invoices)
  have htype := paired_strict_type payments invoices
  have hexact : countMatches (reconcile strict payments invoices).paired .exact =
      (reconcile strict payments invoices).paired.length :=
    List.countP_eq_length.mpr fun entry hentry ↦ decide_eq_true (htype entry hentry)
  have hmatches := countMatches_add (reconcile strict payments invoices).paired
  have hmismatches : countExceptions (reconcile strict payments invoices).exceptions
      .amountMismatch = 0 :=
    List.countP_eq_zero.mpr fun exception hexception ↦ by
      simpa using exceptions_strict_type payments invoices exception hexception
  obtain ⟨hpayments, hinvoices, -⟩ := hbalanced
  rw [hreport.summary] at hpayments hinvoices ⊢
  simp only [summarize] at hpayments hinvoices ⊢
  rw [Summary.mk.injEq]
  refine ⟨rfl, rfl, hexact, ?_, ?_, ?_, ?_, hmismatches, rfl⟩ <;> omega

variable {payments invoices} in
theorem summary_strict_perm {payments' : List PaymentRecord} {invoices' : List InvoiceRecord}
    (hpayments : payments'.Perm payments) (hinvoices : invoices'.Perm invoices) :
    (reconcile strict payments' invoices').summary =
      (reconcile strict payments invoices).summary := by
  have hpaid : (paidAmounts payments').Perm (paidAmounts payments) :=
    (hpayments.filter _).map PaymentRecord.amount
  have hdue : (dueAmounts invoices').Perm (dueAmounts invoices) :=
    (hinvoices.filter _).map InvoiceRecord.due
  have hamounts : ((reconcile strict payments' invoices').paired.map Match.amount).Perm
      ((reconcile strict payments invoices).paired.map Match.amount) := by
    rw [List.perm_iff_count]
    intro amount
    rw [count_paired_strict, count_paired_strict, hpaid.count_eq, hdue.count_eq]
  have hlength : (reconcile strict payments' invoices').paired.length =
      (reconcile strict payments invoices).paired.length := by
    simpa using hamounts.length_eq
  rw [summary_strict, summary_strict, hpayments.countP_eq, hinvoices.countP_eq]
  simp only [hlength, Totals.ofMatches_perm hamounts]

/-- **Exact matching is optimal.**  Without a tolerance and without the fallback every amount has as
many matches as the fewer of its payments and its invoices, all of them exact.  The joins of a
report are an exact pairing, and no exact pairing has more.  The summary stays the same when the
payments and the invoices are put into another order. -/
theorem reconcile_strict_optimal :
    let report := reconcile strict payments invoices
    (∀ amount : Money, (report.paired.map Match.amount).count amount =
        min ((paidAmounts payments).count amount) ((dueAmounts invoices).count amount)) ∧
      (∀ entry ∈ report.paired, entry.type = .exact) ∧
      (∀ exception ∈ report.exceptions, exception.type ≠ .amountMismatch) ∧
      (∀ payments' invoices', payments'.Perm payments → invoices'.Perm invoices →
        (reconcile strict payments' invoices').summary = report.summary) ∧
      (report.paired = (joins strict payments invoices).map Join.entry ∧
        IsPairing payments invoices (joins strict payments invoices) ∧
        AreExact (joins strict payments invoices)) ∧
      ∀ pairing, IsPairing payments invoices pairing → AreExact pairing →
        pairing.length ≤ report.paired.length := by
  intro report
  refine ⟨count_paired_strict payments invoices, paired_strict_type payments invoices,
    exceptions_strict_type payments invoices,
    fun _ _ hpayments hinvoices ↦ summary_strict_perm hpayments hinvoices, ⟨?_, ?_, ?_⟩, ?_⟩
  · exact (reconcile_isReportOf strict payments invoices).paired
  · exact joins_isPairing strict payments invoices
  · exact joins_strict_areExact payments invoices
  · intro pairing hpairing hexact
    simpa using (hpairing.subperm_paired hexact).length_le

end

/-- Of two equal payments either can be matched with the only invoice, and both orders of them are
summed up in the same way. -/
theorem reconcile_strict_optimal_either :
    let first := paymentOf "P-1" "KES" (by decide)
    let second := paymentOf "P-2" "KES" (by decide)
    let invoice := invoiceOf "I-1" "KES" (by decide)
    (reconcile strict [second, first] [invoice]).summary =
        (reconcile strict [first, second] [invoice]).summary ∧
      [(⟨1, second, 0, invoice⟩ : Join)].length ≤
        (reconcile strict [first, second] [invoice]).paired.length := by
  intro first second invoice
  obtain ⟨-, -, -, hsummary, -, hpairings⟩ := reconcile_strict_optimal [first, second] [invoice]
  refine ⟨hsummary _ _ (List.Perm.swap first second []) (List.Perm.refl _),
    hpairings _ ⟨?_, ?_, ?_, ?_, ?_⟩ ?_⟩
  · exact List.forall_mem_singleton.mpr rfl
  · exact List.forall_mem_singleton.mpr rfl
  · exact List.forall_mem_singleton.mpr rfl
  · exact List.nodup_singleton _
  · exact List.nodup_singleton _
  · exact List.forall_mem_singleton.mpr rfl

end MobileMoney.Reconciliation
