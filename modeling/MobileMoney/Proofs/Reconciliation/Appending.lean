import MobileMoney.Proofs.Reconciliation.FirstFit
import MobileMoney.Proofs.Reconciliation.Separation

/-!
# Appended records

A snapshot grows at its end.  What an earlier report has matched within the tolerance stays matched,
because an appended payment has its turn after all others and an appended invoice is taken only
where nothing before it fits.  A match of the fallback may move: its invoice can be taken within the
tolerance by a payment that comes later.
-/

namespace MobileMoney.Reconciliation

section

variable (payments later : List PaymentRecord) (invoices issued : List InvoiceRecord)

/-! ## Positions -/

theorem paidAmounts_append :
    paidAmounts (payments ++ later) = paidAmounts payments ++ paidAmounts later := by
  rw [paidAmounts, List.filter_append, List.map_append]
  rfl

theorem dueAmounts_append :
    dueAmounts (invoices ++ issued) = dueAmounts invoices ++ dueAmounts issued := by
  rw [dueAmounts, List.filter_append, List.map_append]
  rfl

theorem blankRows_append :
    blankRows (payments ++ later) = blankRows payments ++ blankRows later := by
  rw [blankRows, List.filter_append, List.map_append]
  rfl

variable {payments later invoices issued}

theorem fitsAt_append_iff {fits : Money → Money → Prop} {paid due more others : List Money}
    {i j : Nat} (hi : i < paid.length) (hj : j < due.length) :
    FitsAt fits (paid ++ more) (due ++ others) i j ↔ FitsAt fits paid due i j := by
  rw [FitsAt, List.getElem?_append_left hi, List.getElem?_append_left hj]
  rfl

theorem IsPairing.positions_lt {found : List Join} (h : IsPairing payments invoices found)
    {join : Join} (hjoin : join ∈ found) :
    join.paymentPosition < (paidAmounts payments).length ∧
      join.invoicePosition < (dueAmounts invoices).length := by
  rw [paidAmounts, dueAmounts, List.length_map, List.length_map]
  exact ⟨(List.getElem?_eq_some_iff.mp (h.payment_at join hjoin)).1,
    (List.getElem?_eq_some_iff.mp (h.invoice_at join hjoin)).1⟩

/-- Joins at the same positions are the same, also when records have been appended. -/
theorem IsPairing.eq_of_append {found foundLater : List Join}
    (h : IsPairing payments invoices found)
    (hlater : IsPairing (payments ++ later) (invoices ++ issued) foundLater) {join other : Join}
    (hjoin : join ∈ found) (hother : other ∈ foundLater)
    (hpayment : other.paymentPosition = join.paymentPosition)
    (hinvoice : other.invoicePosition = join.invoicePosition) : other = join := by
  have hpaid := h.payment_at join hjoin
  have hdue := h.invoice_at join hjoin
  have hpaid' := hlater.payment_at other hother
  have hdue' := hlater.invoice_at other hother
  rw [List.filter_append, hpayment,
    List.getElem?_append_left (List.getElem?_eq_some_iff.mp hpaid).1, hpaid] at hpaid'
  rw [List.filter_append, hinvoice,
    List.getElem?_append_left (List.getElem?_eq_some_iff.mp hdue).1, hdue] at hdue'
  cases join
  cases other
  rw [Join.mk.injEq]
  exact ⟨hpayment, (Option.some.inj hpaid').symm, hinvoice, (Option.some.inj hdue').symm⟩

/-! ## Matches within the tolerance -/

variable {settings : ReconciliationSettings}

theorem matchedAt_append_iff {i j : Nat} (hi : i < (paidAmounts payments).length)
    (hj : j < (dueAmounts invoices).length) :
    MatchedAt settings.tolerance (joins settings payments invoices) false i j ↔
      MatchedAt settings.tolerance (joins settings (payments ++ later) (invoices ++ issued))
        false i j := by
  refine joins_isFirstFit.near_isGreedy.agree joins_isFirstFit.near_isGreedy ?_ i hi j hj
  intro i hi j hj
  rw [paidAmounts_append, dueAmounts_append]
  exact (fitsAt_append_iff hi hj).symm

/-- The joins within the tolerance are those among the records that were there before. -/
theorem mem_joins_append_iff {join : Join}
    (hnear : distance join.payment.amount join.invoice.due ≤ settings.tolerance) :
    join ∈ joins settings payments invoices ↔
      join ∈ joins settings (payments ++ later) (invoices ++ issued) ∧
        join.paymentPosition < (paidAmounts payments).length ∧
          join.invoicePosition < (dueAmounts invoices).length := by
  have hpairing := joins_isPairing settings payments invoices
  have hgrown := joins_isPairing settings (payments ++ later) (invoices ++ issued)
  have hmark : join.isFar settings.tolerance = false := decide_eq_false (Nat.not_lt.mpr hnear)
  constructor
  · intro hjoin
    obtain ⟨hi, hj⟩ := hpairing.positions_lt hjoin
    obtain ⟨other, hother, -, hpayment, hinvoice⟩ :=
      (matchedAt_append_iff hi hj).mp ⟨join, hjoin, hmark, rfl, rfl⟩
    have hsame : other = join := hpairing.eq_of_append hgrown hjoin hother hpayment hinvoice
    exact ⟨hsame ▸ hother, hi, hj⟩
  · intro hjoin
    obtain ⟨hlater, hi, hj⟩ := hjoin
    obtain ⟨other, hother, -, hpayment, hinvoice⟩ :=
      (matchedAt_append_iff hi hj).mpr ⟨join, hlater, hmark, rfl, rfl⟩
    have hsame : join = other :=
      hpairing.eq_of_append hgrown hother hlater hpayment.symm hinvoice.symm
    exact hsame ▸ hother

/-! ## Without the fallback -/

theorem Sheet.joins_prefix {sheet grown : Sheet} (h : sheet.rows <+: grown.rows) :
    sheet.joins <+: grown.joins := by
  obtain ⟨more, hmore⟩ := h
  rw [Sheet.joins, Sheet.joins, ← hmore, List.zipIdx_append, List.filterMap_append]
  exact List.prefix_append _ _

/-- Appended payments have their turn after the others. -/
theorem firstPass_rows_prefix {tolerance : Nat} :
    (firstPass tolerance payments invoices).rows <+:
      (firstPass tolerance (payments ++ later) invoices).rows := by
  have hrows : blankRows payments =
      (blankRows (payments ++ later)).take (blankRows payments).length := by
    rw [blankRows_append, List.take_left]
  rw [firstPass, hrows, choose_take]
  exact List.take_prefix _ _

theorem joins_append_prefix (hfallback : settings.matchOutsideTolerance = false) :
    joins settings payments invoices <+: joins settings (payments ++ later) invoices := by
  have hpair (paid : List PaymentRecord) :
      pair settings paid invoices = firstPass settings.tolerance paid invoices := by
    simp [pair, hfallback]
  rw [joins, joins, hpair, hpair]
  exact Sheet.joins_prefix firstPass_rows_prefix

end

end MobileMoney.Reconciliation
