import Mathlib.Algebra.Order.BigOperators.Group.List
import Mathlib.Algebra.Order.Ring.Nat
import MobileMoney.Proofs.Money.Canonical
import MobileMoney.Proofs.Reconciliation.Joins

/-!
# Reports conserve money

What was paid in a currency is what is matched, what is left over and what was paid beyond an
invoice; what was due is what is matched, what is left over and what an invoice is short of.  Both
hold of one join, and of a report because its joins and what they leave over are all there is.
-/

namespace MobileMoney.Reconciliation

/-- The minor units of the amounts of one currency. -/
def total (currency : Currency) (amounts : List Money) : Nat :=
  ((amounts.filter (·.currency = currency)).map Money.minor).sum

/-- The amounts of the exceptions of one type. -/
def Report.amountsOf (report : Report) (type : ExceptionType) : List Money :=
  (report.exceptions.filter (·.type = type)).map ReportException.amount

namespace Join

def currency (join : Join) : Currency :=
  join.payment.amount.currency

def paid (join : Join) : Nat :=
  join.payment.amount.minor

def due (join : Join) : Nat :=
  join.invoice.due.minor

/-- What was paid beyond what was due. -/
def surplus (join : Join) : Nat :=
  join.paid - join.due

/-- What was due beyond what was paid. -/
def shortfall (join : Join) : Nat :=
  join.due - join.paid

/-- The absolute difference of what was paid and what was due. -/
def difference (join : Join) : Nat :=
  ((join.paid : Int) - join.due).natAbs

end Join

/-- Joins of one currency. -/
def joinsIn (currency : Currency) (joins : List Join) : List Join :=
  joins.filter (·.currency = currency)

/-- The match of a join: the smaller amount in the currency of both, and how the two compare. -/
structure Settles (join : Join) (entry : Match) : Prop where
  payment : entry.paymentId = join.payment.id
  invoice : entry.invoiceId = join.invoice.id
  amount : Money.ofMinor (min join.paid join.due) join.currency.code = .ok entry.amount
  minor : entry.amount.minor = min join.paid join.due
  currency : entry.amount.currency = join.currency
  exact : entry.type = .exact ↔ join.paid = join.due
  partly : entry.type = .partly ↔ join.paid < join.due
  overpayment : entry.type = .overpayment ↔ join.due < join.paid

/-- The exception of a join outside the tolerance: the difference, in the currency of both. -/
structure ReportsDifference (join : Join) (exception : ReportException) : Prop where
  payment : exception.entityId = join.payment.id
  amount : Money.ofMinor join.difference join.currency.code = .ok exception.amount
  minor : exception.amount.minor = join.difference
  currency : exception.amount.currency = join.currency

/-- Nothing that was paid or due gets lost, and the differences that no exception carries are
small. -/
structure Report.ConservesMoney (tolerance : Nat) (payments : List PaymentRecord)
    (invoices : List InvoiceRecord) (joins : List Join) (report : Report) : Prop where
  paid : ∀ currency : Currency,
    total currency ((payments.filter (·.isSucceeded)).map PaymentRecord.amount) =
      total currency (report.paired.map Match.amount) +
        total currency (report.amountsOf .unmatchedPayment) +
        ((joinsIn currency joins).map Join.surplus).sum
  due : ∀ currency : Currency,
    total currency ((invoices.filter (·.isOpen)).map InvoiceRecord.due) =
      total currency (report.paired.map Match.amount) +
        total currency (report.amountsOf .unmatchedInvoice) +
        ((joinsIn currency joins).map Join.shortfall).sum
  unreported : ∀ currency : Currency,
    (((joinsIn currency joins).filter (!·.isFar tolerance)).map Join.difference).sum ≤
      tolerance * ((joinsIn currency joins).filter (!·.isFar tolerance)).length

/-! ## Totals -/

theorem total_append (currency : Currency) (amounts more : List Money) :
    total currency (amounts ++ more) = total currency amounts + total currency more := by
  simp only [total, List.filter_append, List.map_append, List.sum_append]

theorem total_concat (currency : Currency) (amounts : List Money) (amount : Money) :
    total currency (amounts ++ [amount]) =
      total currency amounts + if amount.currency = currency then amount.minor else 0 := by
  rw [total_append]
  by_cases h : amount.currency = currency <;> simp [total, h]

theorem total_perm (currency : Currency) {amounts amounts' : List Money}
    (h : amounts.Perm amounts') : total currency amounts = total currency amounts' :=
  ((h.filter _).map Money.minor).sum_eq

/-- Amounts that are made of two parts each, one of them in the same currency. -/
theorem total_split {α : Type} (currency : Currency) (whole part : α → Money) (rest : α → Nat)
    {entries : List α}
    (hcurrency : ∀ entry ∈ entries, (whole entry).currency = (part entry).currency)
    (hminor : ∀ entry ∈ entries, (whole entry).minor = (part entry).minor + rest entry) :
    total currency (entries.map whole) = total currency (entries.map part) +
      ((entries.filter fun entry ↦ (whole entry).currency = currency).map rest).sum := by
  induction entries with
  | nil => rfl
  | cons entry entries ih =>
    have hrest := ih (fun e he ↦ hcurrency e (List.mem_cons_of_mem _ he))
      fun e he ↦ hminor e (List.mem_cons_of_mem _ he)
    have hhead := hcurrency entry List.mem_cons_self
    have hsum := hminor entry List.mem_cons_self
    simp only [total, List.map_cons] at hrest ⊢
    by_cases h : (part entry).currency = currency
    · have hwhole : (whole entry).currency = currency := hhead.trans h
      simp only [List.filter_cons, h, hwhole, decide_true, if_true, List.map_cons, List.sum_cons]
      omega
    · have hwhole : (whole entry).currency ≠ currency := hhead ▸ h
      simpa only [List.filter_cons, h, hwhole, decide_false, Bool.false_eq_true, if_false]
        using hrest

/-! ## Matches and differences of joins -/

theorem MatchType.of_spec (paid due : Nat) :
    (MatchType.of paid due = .exact ↔ paid = due) ∧
      (MatchType.of paid due = .partly ↔ paid < due) ∧
      (MatchType.of paid due = .overpayment ↔ due < paid) := by
  unfold MatchType.of
  split <;> [skip; split] <;> simp <;> omega

namespace Join

variable (join : Join)

theorem difference_eq_distance :
    join.difference = distance join.payment.amount join.invoice.due := by
  unfold difference distance paid due
  omega

theorem paid_eq : join.paid = join.entry.amount.minor + join.surplus := by
  have hentry : join.entry.amount.minor = min join.paid join.due := rfl
  unfold surplus
  omega

theorem due_eq : join.due = join.entry.amount.minor + join.shortfall := by
  have hentry : join.entry.amount.minor = min join.paid join.due := rfl
  unfold shortfall
  omega

theorem settles_entry : Settles join join.entry where
  payment := rfl
  invoice := rfl
  amount := by
    have hsmall : min join.paid join.due < UInt64.size :=
      Nat.lt_of_le_of_lt (Nat.min_le_left _ _) join.payment.amount.minor_lt
    exact Money.ofMinor_code join.payment.amount hsmall
  minor := rfl
  currency := rfl
  exact := (MatchType.of_spec join.paid join.due).1
  partly := (MatchType.of_spec join.paid join.due).2.1
  overpayment := (MatchType.of_spec join.paid join.due).2.2

theorem reportsDifference_amountMismatch :
    ReportsDifference join (amountMismatch join.payment join.invoice) where
  payment := rfl
  amount := by
    have hsmall : distance join.payment.amount join.invoice.due < UInt64.size := by
      have hpaid := join.payment.amount.minor_lt
      have hdue := join.invoice.due.minor_lt
      unfold distance
      omega
    rw [difference_eq_distance]
    exact Money.ofMinor_code join.payment.amount hsmall
  minor := join.difference_eq_distance.symm
  currency := rfl

end Join

section

variable {tolerance : Nat} {payments : List PaymentRecord} {invoices : List InvoiceRecord}
  {joins : List Join} {report : Report}

/-! ## What is left over -/

theorem IsReportOf.total_amountsOf (h : IsReportOf tolerance payments invoices joins report)
    (currency : Currency) (type : ExceptionType) :
    total currency (report.amountsOf type) =
      total currency ((((unjoined (joins.map Join.paymentPosition)
            (payments.filter (·.isSucceeded))).map unmatchedPayment ++
          (unjoined (joins.map Join.invoicePosition) (invoices.filter (·.isOpen))).map
            unmatchedInvoice ++
          (joins.filter (Join.isFar tolerance)).map fun join ↦
            amountMismatch join.payment join.invoice).filter (·.type = type)).map
        ReportException.amount) :=
  total_perm currency ((h.exceptions.filter _).map _)

theorem IsReportOf.total_unmatchedPayment
    (h : IsReportOf tolerance payments invoices joins report) (currency : Currency) :
    total currency (report.amountsOf .unmatchedPayment) =
      total currency ((unjoined (joins.map Join.paymentPosition)
        (payments.filter (·.isSucceeded))).map PaymentRecord.amount) := by
  have htotal := h.total_amountsOf currency .unmatchedPayment
  simpa [Report.amountsOf, List.filter_append, List.filter_map, Function.comp_def,
    unmatchedPayment, unmatchedInvoice, amountMismatch] using htotal

theorem IsReportOf.total_unmatchedInvoice
    (h : IsReportOf tolerance payments invoices joins report) (currency : Currency) :
    total currency (report.amountsOf .unmatchedInvoice) =
      total currency ((unjoined (joins.map Join.invoicePosition)
        (invoices.filter (·.isOpen))).map InvoiceRecord.due) := by
  have htotal := h.total_amountsOf currency .unmatchedInvoice
  simpa [Report.amountsOf, List.filter_append, List.filter_map, Function.comp_def,
    unmatchedPayment, unmatchedInvoice, amountMismatch] using htotal

/-! ## Both sides of a report -/

theorem IsReportOf.total_paid (hpairing : IsPairing payments invoices joins)
    (hreport : IsReportOf tolerance payments invoices joins report) (currency : Currency) :
    total currency ((payments.filter (·.isSucceeded)).map PaymentRecord.amount) =
      total currency (report.paired.map Match.amount) +
        total currency (report.amountsOf .unmatchedPayment) +
        ((joinsIn currency joins).map Join.surplus).sum := by
  have hall := total_perm currency (hpairing.perm_payments.map PaymentRecord.amount)
  rw [List.map_append, total_append, List.map_map] at hall
  have hjoined : total currency (joins.map (PaymentRecord.amount ∘ Join.payment)) =
      total currency (joins.map (Match.amount ∘ Join.entry)) +
        ((joinsIn currency joins).map Join.surplus).sum :=
    total_split currency _ _ Join.surplus (fun _ _ ↦ rfl) fun join _ ↦ join.paid_eq
  rw [hreport.total_unmatchedPayment, hreport.paired, List.map_map]
  omega

/-- An invoice that is due in the currency of its payment counts where its payment does. -/
theorem IsPairing.joinsIn_eq (h : IsPairing payments invoices joins) (currency : Currency) :
    joinsIn currency joins = joins.filter (·.invoice.due.currency = currency) :=
  List.filter_congr fun join hjoin ↦ by
    rw [Join.currency, h.same_currency join hjoin]

theorem IsReportOf.total_due (hpairing : IsPairing payments invoices joins)
    (hreport : IsReportOf tolerance payments invoices joins report) (currency : Currency) :
    total currency ((invoices.filter (·.isOpen)).map InvoiceRecord.due) =
      total currency (report.paired.map Match.amount) +
        total currency (report.amountsOf .unmatchedInvoice) +
        ((joinsIn currency joins).map Join.shortfall).sum := by
  have hall := total_perm currency (hpairing.perm_invoices.map InvoiceRecord.due)
  rw [List.map_append, total_append, List.map_map] at hall
  have hjoined : total currency (joins.map (InvoiceRecord.due ∘ Join.invoice)) =
      total currency (joins.map (Match.amount ∘ Join.entry)) +
        ((joinsIn currency joins).map Join.shortfall).sum := by
    rw [hpairing.joinsIn_eq]
    exact total_split currency _ _ Join.shortfall
      (fun join hjoin ↦ (hpairing.same_currency join hjoin).symm) fun join _ ↦ join.due_eq
  rw [hreport.total_unmatchedInvoice, hreport.paired, List.map_map]
  omega

/-- Joins that no exception reports differ by the tolerance at most. -/
theorem sum_difference_le (entries : List Join) :
    ((entries.filter (!·.isFar tolerance)).map Join.difference).sum ≤
      tolerance * (entries.filter (!·.isFar tolerance)).length := by
  have hsmall : ∀ amount ∈ (entries.filter (!·.isFar tolerance)).map Join.difference,
      amount ≤ tolerance := by
    intro amount hamount
    obtain ⟨join, hjoin, rfl⟩ := List.mem_map.mp hamount
    have hnear : ¬ tolerance < distance join.payment.amount join.invoice.due := by
      simpa [Join.isFar] using (List.mem_filter.mp hjoin).2
    rw [join.difference_eq_distance]
    omega
  have hsum := List.sum_le_card_nsmul _ tolerance hsmall
  rwa [List.length_map, Nat.nsmul_eq_mul, Nat.mul_comm] at hsum

theorem IsReportOf.conservesMoney (hpairing : IsPairing payments invoices joins)
    (hreport : IsReportOf tolerance payments invoices joins report) :
    report.ConservesMoney tolerance payments invoices joins where
  paid := hreport.total_paid hpairing
  due := hreport.total_due hpairing
  unreported currency := sum_difference_le (joinsIn currency joins)

/-! ## Entries of a report -/

theorem IsReportOf.forall₂_settles (h : IsReportOf tolerance payments invoices joins report) :
    List.Forall₂ Settles joins report.paired := by
  rw [h.paired, List.forall₂_map_right_iff, List.forall₂_same]
  exact fun join _ ↦ join.settles_entry

end

section

variable (settings : ReconciliationSettings) (payments : List PaymentRecord)
  (invoices : List InvoiceRecord)

/-- The mismatches of a report are those of the joins outside the tolerance, in their order. -/
theorem reconcile_amountMismatches :
    (reconcile settings payments invoices).exceptions.filter (·.type = .amountMismatch) =
      ((joins settings payments invoices).filter (Join.isFar settings.tolerance)).map
        fun join ↦ amountMismatch join.payment join.invoice := by
  have hrows : (fun row : Row ↦ row.exception?.filter (·.type = .amountMismatch)) =
      Row.mismatch? := by
    funext row
    obtain ⟨payment, _ | ⟨c, _ | _⟩⟩ := row <;>
      simp [Row.exception?, Row.mismatch?, unmatchedPayment, amountMismatch]
  have hfree : ((pair settings payments invoices).free.map fun candidate ↦
      unmatchedInvoice candidate.invoice).filter (·.type = .amountMismatch) = [] := by
    simp [unmatchedInvoice]
  rw [← filterMap_mismatch?, reconcile, List.filter_append, hfree, List.append_nil,
    List.filter_filterMap, hrows]

theorem forall₂_reportsDifference :
    List.Forall₂ ReportsDifference
      ((joins settings payments invoices).filter (Join.isFar settings.tolerance))
      ((reconcile settings payments invoices).exceptions.filter (·.type = .amountMismatch)) := by
  rw [reconcile_amountMismatches, List.forall₂_map_right_iff, List.forall₂_same]
  exact fun join _ ↦ join.reportsDifference_amountMismatch

end

/-- **Conservation of money.** The matches of a report settle its joins and its mismatches state
their differences, one for one and in order; in every currency what was paid and what was due are
what the report accounts for, and the differences that it does not state are within the tolerance
for each join. -/
theorem reconcile_conserves_money (settings : ReconciliationSettings)
    (payments : List PaymentRecord) (invoices : List InvoiceRecord) :
    IsPairing payments invoices (joins settings payments invoices) ∧
      List.Forall₂ Settles (joins settings payments invoices)
        (reconcile settings payments invoices).paired ∧
      List.Forall₂ ReportsDifference
        ((joins settings payments invoices).filter (Join.isFar settings.tolerance))
        ((reconcile settings payments invoices).exceptions.filter (·.type = .amountMismatch)) ∧
      (reconcile settings payments invoices).ConservesMoney settings.tolerance payments invoices
        (joins settings payments invoices) := by
  have hpairing := joins_isPairing settings payments invoices
  have hreport := reconcile_isReportOf settings payments invoices
  exact ⟨hpairing, hreport.forall₂_settles, forall₂_reportsDifference settings payments invoices,
    hreport.conservesMoney hpairing⟩

end MobileMoney.Reconciliation
