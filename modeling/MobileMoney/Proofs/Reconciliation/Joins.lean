import Mathlib.Data.List.Nodup
import MobileMoney.Proofs.Reconciliation.Passes
import MobileMoney.Reconciliation.Report

/-!
# The joins of a report

A report names records by their identifiers, which need not differ.  A `Join` names them by
position: it is a succeeded payment and an open invoice that are matched, each with its place among
its kind.  `reconcile_pairs_once` says that the joins are a one-to-one partial pairing, that the
matches and the exceptions of a report are those of its joins, and that its counters balance.
-/

namespace MobileMoney.Reconciliation

structure Join where
  paymentPosition : Nat
  payment : PaymentRecord
  invoicePosition : Nat
  invoice : InvoiceRecord

namespace Join

def entry (join : Join) : Match :=
  matchOf join.payment join.invoice

def candidate (join : Join) : Candidate :=
  ⟨join.invoice, join.invoicePosition⟩

def isFar (tolerance : Nat) (join : Join) : Bool :=
  tolerance < distance join.payment.amount join.invoice.due

end Join

def Row.join? (row : Row) (position : Nat) : Option Join :=
  row.candidate?.map fun c ↦ ⟨position, row.payment, c.position, c.invoice⟩

/-- The payments with an invoice, in order. -/
def Sheet.joins (sheet : Sheet) : List Join :=
  sheet.rows.zipIdx.filterMap fun (row, position) ↦ row.join? position

def joins (settings : ReconciliationSettings) (payments : List PaymentRecord)
    (invoices : List InvoiceRecord) : List Join :=
  (pair settings payments invoices).joins

/-- Joins of succeeded payments with open invoices of the same currency, none of them twice. -/
structure IsPairing (payments : List PaymentRecord) (invoices : List InvoiceRecord)
    (joins : List Join) : Prop where
  payment_at : ∀ join ∈ joins,
    (payments.filter (·.isSucceeded))[join.paymentPosition]? = some join.payment
  invoice_at : ∀ join ∈ joins,
    (invoices.filter (·.isOpen))[join.invoicePosition]? = some join.invoice
  same_currency : ∀ join ∈ joins, join.payment.amount.currency = join.invoice.due.currency
  payment_once : (joins.map Join.paymentPosition).Nodup
  invoice_once : (joins.map Join.invoicePosition).Nodup

/-- The records whose position is not among the given ones. -/
def unjoined {α : Type} (positions : List Nat) (records : List α) : List α :=
  (records.zipIdx.filter fun (_, position) ↦ position ∉ positions).map Prod.fst

/-- A report with one match for each join, one exception for each succeeded payment and each open
invoice without a join, one for each join outside the tolerance, and the counters of all these. -/
structure IsReportOf (tolerance : Nat) (payments : List PaymentRecord)
    (invoices : List InvoiceRecord) (joins : List Join) (report : Report) : Prop where
  paired : report.paired = joins.map Join.entry
  exceptions : report.exceptions.Perm
    ((unjoined (joins.map Join.paymentPosition) (payments.filter (·.isSucceeded))).map
        unmatchedPayment ++
      (unjoined (joins.map Join.invoicePosition) (invoices.filter (·.isOpen))).map
        unmatchedInvoice ++
      (joins.filter (Join.isFar tolerance)).map fun join ↦ amountMismatch join.payment join.invoice)
  summary : report.summary = summarize (payments.countP (·.isSucceeded))
    (invoices.countP (·.isOpen)) report.paired report.exceptions

/-- Every payment and every invoice that is considered is counted once. -/
structure Report.IsBalanced (report : Report) : Prop where
  payments : report.summary.exact + report.summary.partly + report.summary.overpayments +
    report.summary.unmatchedPayments = report.summary.payments
  invoices : report.summary.exact + report.summary.partly + report.summary.overpayments +
    report.summary.unmatchedInvoices = report.summary.invoices
  mismatches : report.summary.amountMismatches ≤ report.paired.length

/-! ## Joins and rows -/

section

variable {sheet : Sheet}

theorem Sheet.mem_joins {join : Join} :
    join ∈ sheet.joins ↔ ∃ row, sheet.rows[join.paymentPosition]? = some row ∧
      row.payment = join.payment ∧ row.candidate? = some join.candidate := by
  simp only [Sheet.joins, Row.join?, List.mem_filterMap, List.mem_zipIdx_iff_getElem?,
    Option.map_eq_some_iff, Prod.exists]
  constructor
  · intro hfound
    rcases hfound with ⟨row, position, hrow, c, hc, rfl⟩
    exact ⟨row, hrow, rfl, hc⟩
  · intro hfound
    rcases hfound with ⟨row, hrow, hpayment, hc⟩
    refine ⟨row, join.paymentPosition, hrow, join.candidate, hc, ?_⟩
    rw [hpayment]
    rfl

/-- What is collected from the joins is what is collected from the rows, if they agree on each. -/
theorem Sheet.filterMap_joins {β : Type} {f : Join → Option β} {g : Row → Option β}
    (h : ∀ row ∈ sheet.rows, ∀ position, (row.join? position).bind f = g row) :
    sheet.joins.filterMap f = sheet.rows.filterMap g := by
  calc
    sheet.joins.filterMap f =
        sheet.rows.zipIdx.filterMap fun (row, position) ↦ (row.join? position).bind f := by
      rw [Sheet.joins, List.filterMap_filterMap]
    _ = sheet.rows.zipIdx.filterMap (g ∘ Prod.fst) := by
      refine List.filterMap_congr fun ⟨row, position⟩ hrow ↦ h row ?_ position
      exact List.mem_of_getElem? (List.mem_zipIdx_iff_getElem?.mp hrow)
    _ = sheet.rows.filterMap g := by
      rw [← List.filterMap_map, List.zipIdx_map_fst]

theorem Sheet.map_joins {β : Type} {f : Join → β} {g : Row → Option β}
    (h : ∀ row position, (row.join? position).map f = g row) :
    sheet.joins.map f = sheet.rows.filterMap g := by
  rw [← List.filterMap_eq_map]
  exact Sheet.filterMap_joins fun row _ position ↦ by
    rw [← h row position]
    cases row.join? position <;> rfl

theorem Sheet.map_candidate_joins : sheet.joins.map Join.candidate = taken sheet.rows :=
  Sheet.map_joins fun row _ ↦ by
    cases h : row.candidate? <;> simp [Row.join?, h, Join.candidate]

theorem Sheet.map_entry_joins : sheet.joins.map Join.entry = sheet.rows.filterMap Row.match? :=
  Sheet.map_joins fun row _ ↦ by
    cases h : row.choice <;> simp [Row.join?, Row.candidate?, Row.match?, h, Join.entry]

theorem Sheet.joins_paymentPosition_sublist :
    (sheet.joins.map Join.paymentPosition).Sublist (List.range' 0 sheet.rows.length) := by
  rw [← List.zipIdx_map_snd]
  unfold Sheet.joins
  generalize sheet.rows.zipIdx = rows
  induction rows with
  | nil => simp
  | cons row rest ih =>
    cases h : row.1.candidate? with
    | none => simpa [Row.join?, h] using ih.cons row.2
    | some c => simpa [Row.join?, h] using ih.cons_cons row.2

theorem Sheet.joins_paymentPosition_nodup : (sheet.joins.map Join.paymentPosition).Nodup :=
  Sheet.joins_paymentPosition_sublist.nodup List.nodup_range'

/-- The rows without an invoice are the payments at the positions of no join. -/
theorem Sheet.unjoined_payments :
    unjoined (sheet.joins.map Join.paymentPosition) (sheet.rows.map Row.payment) =
      (sheet.rows.filter (·.candidate?.isNone)).map Row.payment := by
  have hposition : ∀ entry ∈ sheet.rows.zipIdx,
      decide (entry.2 ∉ sheet.joins.map Join.paymentPosition) = entry.1.candidate?.isNone := by
    rintro ⟨row, position⟩ hentry
    rw [List.mem_zipIdx_iff_getElem?] at hentry
    rw [Bool.eq_iff_iff, decide_eq_true_iff, List.mem_map, Option.isNone_iff_eq_none]
    constructor
    · intro hnot
      by_contra hsome
      obtain ⟨c, hc⟩ := Option.ne_none_iff_exists'.mp hsome
      exact hnot ⟨⟨position, row.payment, c.position, c.invoice⟩,
        Sheet.mem_joins.mpr ⟨row, hentry, rfl, hc⟩, rfl⟩
    · intro hnone hjoined
      rcases hjoined with ⟨join, hjoin, rfl⟩
      obtain ⟨row', hrow', -, hc⟩ := Sheet.mem_joins.mp hjoin
      obtain rfl : row = row' := by simpa [hentry] using hrow'
      simp [hnone] at hc
  calc
    unjoined (sheet.joins.map Join.paymentPosition) (sheet.rows.map Row.payment) =
        (sheet.rows.zipIdx.filter fun entry ↦
          decide (entry.2 ∉ sheet.joins.map Join.paymentPosition)).map
            (Row.payment ∘ Prod.fst) := by
      simp [unjoined, List.zipIdx_map, List.filter_map, Function.comp_def]
    _ = (sheet.rows.zipIdx.filter fun entry ↦ entry.1.candidate?.isNone).map
        (Row.payment ∘ Prod.fst) := by
      rw [List.filter_congr hposition]
    _ = ((sheet.rows.zipIdx.map Prod.fst).filter (·.candidate?.isNone)).map Row.payment := by
      rw [List.filter_map, List.map_map]
      rfl
    _ = (sheet.rows.filter (·.candidate?.isNone)).map Row.payment := by
      rw [List.zipIdx_map_fst]

end

/-! ## Joins and invoices -/

theorem InOrder.nodup {free : List Candidate} (h : InOrder free) :
    (free.map Candidate.position).Nodup := by
  rw [List.Nodup, List.pairwise_map]
  exact h.imp fun hlt ↦ Nat.ne_of_lt hlt

theorem mem_candidates {invoices : List InvoiceRecord} {c : Candidate}
    (h : c ∈ candidates invoices) :
    (invoices.filter (·.isOpen))[c.position]? = some c.invoice := by
  simp only [candidates, List.mem_map, List.mem_zipIdx_iff_getElem?, Prod.exists] at h
  obtain ⟨invoice, position, hat, rfl⟩ := h
  exact hat

section

variable (settings : ReconciliationSettings) (payments : List PaymentRecord)
  (invoices : List InvoiceRecord)

theorem taken_append_free_nodup :
    ((taken (pair settings payments invoices).rows ++ (pair settings payments invoices).free).map
      Candidate.position).Nodup :=
  ((pair_perm settings payments invoices).map Candidate.position).nodup_iff.mpr
    (candidates_inOrder invoices).nodup

theorem map_invoicePosition_joins :
    (joins settings payments invoices).map Join.invoicePosition =
      (taken (pair settings payments invoices).rows).map Candidate.position := by
  rw [← Sheet.map_candidate_joins, List.map_map]
  rfl

/-- The free invoices are those at the positions of no join, in order. -/
theorem unjoined_invoices :
    unjoined ((joins settings payments invoices).map Join.invoicePosition)
        (invoices.filter (·.isOpen)) =
      (pair settings payments invoices).free.map Candidate.invoice := by
  let isFree (c : Candidate) : Bool :=
    decide (c.position ∉ (joins settings payments invoices).map Join.invoicePosition)
  have hnodup := taken_append_free_nodup settings payments invoices
  rw [List.map_append, List.nodup_append] at hnodup
  have htaken : (taken (pair settings payments invoices).rows).filter isFree = [] := by
    rw [List.filter_eq_nil_iff]
    intro c hc
    rw [decide_eq_true_iff, not_not, map_invoicePosition_joins]
    exact List.mem_map_of_mem hc
  have hfree : (pair settings payments invoices).free.filter isFree =
      (pair settings payments invoices).free := by
    rw [List.filter_eq_self]
    intro c hc
    rw [decide_eq_true_iff, map_invoicePosition_joins]
    intro htaken
    exact hnodup.2.2 _ htaken _ (List.mem_map_of_mem hc) rfl
  have hperm : (pair settings payments invoices).free.Perm
      ((candidates invoices).filter isFree) := by
    simpa [List.filter_append, htaken, hfree] using
      (pair_perm settings payments invoices).filter isFree
  have hsublist : (pair settings payments invoices).free.Sublist
      ((candidates invoices).filter isFree) := by
    simpa [hfree] using (pair_free_sublist settings payments invoices).filter isFree
  rw [hsublist.eq_of_length hperm.length_eq]
  simp [unjoined, candidates, isFree, List.filter_map, Function.comp_def]

theorem unjoined_succeeded :
    unjoined ((joins settings payments invoices).map Join.paymentPosition)
        (payments.filter (·.isSucceeded)) =
      ((pair settings payments invoices).rows.filter (·.candidate?.isNone)).map Row.payment := by
  rw [← pair_payments settings payments invoices]
  exact Sheet.unjoined_payments

variable {settings payments invoices} in
/-- The row of a join, with what the passes say about it. -/
theorem exists_row_of_mem_joins {join : Join} (hjoin : join ∈ joins settings payments invoices) :
    ∃ outside, (pair settings payments invoices).rows[join.paymentPosition]? =
        some ⟨join.payment, some ⟨join.candidate, outside⟩⟩ ∧
      Settled settings.tolerance settings.matchOutsideTolerance
        (firstPass settings.tolerance payments invoices).free
        (pair settings payments invoices).free
        ⟨join.payment, some ⟨join.candidate, outside⟩⟩ := by
  obtain ⟨⟨payment, choice⟩, hrow, rfl, hc⟩ := Sheet.mem_joins.mp hjoin
  obtain ⟨⟨c, outside⟩, rfl, rfl⟩ := Option.map_eq_some_iff.mp hc
  exact ⟨outside, hrow, pair_settled settings payments invoices (List.mem_of_getElem? hrow)⟩

theorem Settled.sameCurrency {tolerance : Nat} {fallback outside : Bool}
    {spare left : List Candidate} {payment : PaymentRecord} {c : Candidate}
    (h : Settled tolerance fallback spare left ⟨payment, some ⟨c, outside⟩⟩) :
    payment.amount.currency = c.invoice.due.currency := by
  cases h with
  | within fit _ =>
    rw [withinTolerance, Bool.and_eq_true] at fit
    exact of_decide_eq_true fit.1
  | outside _ _ same _ => exact of_decide_eq_true same

/-- A choice is marked as outside the tolerance exactly when the amounts are that far apart. -/
theorem Settled.outside_iff {tolerance : Nat} {fallback outside : Bool}
    {spare left : List Candidate} {payment : PaymentRecord} {c : Candidate}
    (h : Settled tolerance fallback spare left ⟨payment, some ⟨c, outside⟩⟩) :
    outside = true ↔ tolerance < distance payment.amount c.invoice.due := by
  cases h with
  | within fit _ =>
    rw [withinTolerance, Bool.and_eq_true, decide_eq_true_iff] at fit
    simpa using fit.2
  | outside _ mem same far =>
    have hfar := far c mem
    rw [withinTolerance, same, Bool.true_and, decide_eq_false_iff_not] at hfar
    simpa using hfar

theorem Settled.isFar_eq {tolerance position : Nat} {fallback outside : Bool}
    {spare left : List Candidate} {payment : PaymentRecord} {c : Candidate}
    (h : Settled tolerance fallback spare left ⟨payment, some ⟨c, outside⟩⟩) :
    Join.isFar tolerance ⟨position, payment, c.position, c.invoice⟩ = outside := by
  rw [Join.isFar, Bool.eq_iff_iff, decide_eq_true_iff]
  exact h.outside_iff.symm

theorem joins_isPairing : IsPairing payments invoices (joins settings payments invoices) where
  payment_at join hjoin := by
    obtain ⟨outside, hrow, -⟩ := exists_row_of_mem_joins hjoin
    rw [← pair_payments settings payments invoices, List.getElem?_map, hrow]
    rfl
  invoice_at join hjoin := by
    have hcandidate : join.candidate ∈ taken (pair settings payments invoices).rows := by
      rw [← Sheet.map_candidate_joins]
      exact List.mem_map_of_mem hjoin
    exact mem_candidates ((pair_perm settings payments invoices).subset
      (List.mem_append_left _ hcandidate))
  same_currency join hjoin := by
    obtain ⟨outside, -, hsettled⟩ := exists_row_of_mem_joins hjoin
    exact hsettled.sameCurrency
  payment_once := Sheet.joins_paymentPosition_nodup
  invoice_once := by
    have h := taken_append_free_nodup settings payments invoices
    rw [List.map_append, ← map_invoicePosition_joins] at h
    exact (List.nodup_append.mp h).1

end

/-! ## Joins and reports -/

/-- The exception of a row whose choice is marked as outside the tolerance. -/
def Row.mismatch? (row : Row) : Option ReportException :=
  row.choice.bind fun choice ↦
    if choice.outsideTolerance then some (amountMismatch row.payment choice.candidate.invoice)
    else none

theorem filterMap_exception?_perm (rows : List Row) :
    (rows.filterMap Row.exception?).Perm
      ((rows.filter (·.candidate?.isNone)).map (fun row ↦ unmatchedPayment row.payment) ++
        rows.filterMap Row.mismatch?) := by
  induction rows with
  | nil => exact .refl _
  | cons row rest ih =>
    obtain ⟨payment, _ | ⟨c, _ | _⟩⟩ := row
    · simpa [Row.exception?, Row.candidate?, Row.mismatch?] using ih
    · simpa [Row.exception?, Row.candidate?, Row.mismatch?] using ih
    · have hmiddle := (ih.cons (amountMismatch payment c.invoice)).trans List.perm_middle.symm
      simpa [Row.exception?, Row.candidate?, Row.mismatch?] using hmiddle

section

variable (settings : ReconciliationSettings) (payments : List PaymentRecord)
  (invoices : List InvoiceRecord)

theorem filterMap_mismatch? :
    (pair settings payments invoices).rows.filterMap Row.mismatch? =
      ((joins settings payments invoices).filter (Join.isFar settings.tolerance)).map
        fun join ↦ amountMismatch join.payment join.invoice := by
  rw [← List.filterMap_eq_map, ← List.filterMap_eq_filter, List.filterMap_filterMap]
  refine (Sheet.filterMap_joins fun row hrow position ↦ ?_).symm
  have hsettled := pair_settled settings payments invoices hrow
  obtain ⟨payment, _ | ⟨c, outside⟩⟩ := row
  · rfl
  · cases outside <;>
      simp [Row.join?, Row.candidate?, Row.mismatch?, hsettled.isFar_eq]

theorem reconcile_isReportOf :
    IsReportOf settings.tolerance payments invoices (joins settings payments invoices)
      (reconcile settings payments invoices) where
  paired := Sheet.map_entry_joins.symm
  exceptions := by
    rw [unjoined_succeeded, unjoined_invoices, ← filterMap_mismatch?, List.map_map, List.map_map]
    refine ((filterMap_exception?_perm _).append_right _).trans ?_
    rw [List.append_assoc, List.append_assoc]
    exact List.Perm.append_left _ List.perm_append_comm
  summary := rfl

end

/-! ## Nothing is lost -/

/-- Records named by different positions and the others together are all records. -/
theorem perm_unjoined {α : Type} (records : List α) (entries : List (α × Nat))
    (hat : ∀ entry ∈ entries, records[entry.2]? = some entry.1)
    (honce : (entries.map Prod.snd).Nodup) :
    (entries.map Prod.fst ++ unjoined (entries.map Prod.snd) records).Perm records := by
  let isNamed (entry : α × Nat) : Bool := decide (entry.2 ∈ entries.map Prod.snd)
  have hindices : records.zipIdx.Nodup := by
    refine List.Nodup.of_map Prod.snd ?_
    rw [List.zipIdx_map_snd]
    exact List.nodup_range'
  have hnamed : (records.zipIdx.filter isNamed).Perm entries := by
    refine (List.perm_ext_iff_of_nodup (hindices.filter _) (honce.of_map _)).mpr ?_
    rintro ⟨record, position⟩
    rw [List.mem_filter, List.mem_zipIdx_iff_getElem?, decide_eq_true_iff, List.mem_map]
    constructor
    · intro hnamed
      rcases hnamed with ⟨hrecord, ⟨record', _⟩, hentry, rfl⟩
      obtain rfl : record = record' := by simpa [hrecord] using hat _ hentry
      exact hentry
    · intro hentry
      exact ⟨hat _ hentry, _, hentry, rfl⟩
  have hall := List.filter_append_perm isNamed records.zipIdx
  have hmap := ((hnamed.symm.append_right _).trans hall).map Prod.fst
  rw [List.map_append, List.zipIdx_map_fst] at hmap
  simpa [unjoined, isNamed] using hmap

section

variable {payments : List PaymentRecord} {invoices : List InvoiceRecord} {joins : List Join}

/-- Every succeeded payment has a join or is left over. -/
theorem IsPairing.perm_payments (h : IsPairing payments invoices joins) :
    (joins.map Join.payment ++
      unjoined (joins.map Join.paymentPosition) (payments.filter (·.isSucceeded))).Perm
        (payments.filter (·.isSucceeded)) := by
  have hperm := perm_unjoined (payments.filter (·.isSucceeded))
    (joins.map fun join ↦ (join.payment, join.paymentPosition))
    (by simpa using h.payment_at) (by simpa [Function.comp_def] using h.payment_once)
  simpa [Function.comp_def] using hperm

/-- Every open invoice has a join or is left over. -/
theorem IsPairing.perm_invoices (h : IsPairing payments invoices joins) :
    (joins.map Join.invoice ++
      unjoined (joins.map Join.invoicePosition) (invoices.filter (·.isOpen))).Perm
        (invoices.filter (·.isOpen)) := by
  have hperm := perm_unjoined (invoices.filter (·.isOpen))
    (joins.map fun join ↦ (join.invoice, join.invoicePosition))
    (by simpa using h.invoice_at) (by simpa [Function.comp_def] using h.invoice_once)
  simpa [Function.comp_def] using hperm

end

/-! ## Counters -/

theorem countMatches_add (found : List Match) :
    countMatches found .exact + countMatches found .partly + countMatches found .overpayment =
      found.length := by
  induction found with
  | nil => rfl
  | cons entry rest ih =>
    simp only [countMatches, List.countP_cons, List.length_cons] at ih ⊢
    cases entry.type <;> simp <;> omega

section

variable {tolerance : Nat} {payments : List PaymentRecord} {invoices : List InvoiceRecord}
  {joins : List Join} {report : Report}

/-- How many exceptions of each type a report has. -/
theorem IsReportOf.countExceptions_eq
    (h : IsReportOf tolerance payments invoices joins report) :
    countExceptions report.exceptions .unmatchedPayment =
        (unjoined (joins.map Join.paymentPosition) (payments.filter (·.isSucceeded))).length ∧
      countExceptions report.exceptions .unmatchedInvoice =
        (unjoined (joins.map Join.invoicePosition) (invoices.filter (·.isOpen))).length ∧
      countExceptions report.exceptions .amountMismatch =
        (joins.filter (Join.isFar tolerance)).length := by
  simp only [countExceptions, h.exceptions.countP_eq, List.countP_append, List.countP_map]
  simp [Function.comp_def, unmatchedPayment, unmatchedInvoice, amountMismatch]

theorem IsReportOf.isBalanced (hpairing : IsPairing payments invoices joins)
    (hreport : IsReportOf tolerance payments invoices joins report) : report.IsBalanced := by
  obtain ⟨hpayments, hinvoices, hmismatches⟩ := hreport.countExceptions_eq
  have hmatches := countMatches_add report.paired
  have hpaired : report.paired.length = joins.length := by rw [hreport.paired, List.length_map]
  have hsucceeded := hpairing.perm_payments.length_eq
  have hopen := hpairing.perm_invoices.length_eq
  rw [List.length_append, List.length_map, ← List.countP_eq_length_filter] at hsucceeded hopen
  have hfar := List.length_filter_le (Join.isFar tolerance) joins
  constructor <;> simp only [hreport.summary, summarize] <;> omega

end

/-- **One-to-one pairing.** The joins of a report are a one-to-one partial pairing of the succeeded
payments with the open invoices, by position; the report has one match for each join, one exception
for each record without a join and for each join outside the tolerance, and counts them all. -/
theorem reconcile_pairs_once (settings : ReconciliationSettings) (payments : List PaymentRecord)
    (invoices : List InvoiceRecord) :
    IsPairing payments invoices (joins settings payments invoices) ∧
      IsReportOf settings.tolerance payments invoices (joins settings payments invoices)
        (reconcile settings payments invoices) ∧
      (reconcile settings payments invoices).IsBalanced := by
  have hpairing := joins_isPairing settings payments invoices
  have hreport := reconcile_isReportOf settings payments invoices
  exact ⟨hpairing, hreport, hreport.isBalanced hpairing⟩

end MobileMoney.Reconciliation
