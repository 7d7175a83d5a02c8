import MobileMoney.Proofs.Reconciliation.Passes
import MobileMoney.Proofs.Reconciliation.Totals

/-!
# Currencies are separate

What a report says about one currency is what a report on the records of that currency alone says.
A pass looks at the invoices of a payment's own currency only, so the rows and the free invoices of
a currency go through both passes as if the others were not there.  Only the positions differ, and
no report speaks of positions.
-/

namespace MobileMoney.Reconciliation

/-! ## One pass -/

/-- Only an invoice of its own currency fits a payment. -/
def IsSeparate (fits : PaymentRecord → InvoiceRecord → Bool) : Prop :=
  ∀ payment invoice, fits payment invoice = true → payment.amount.currency = invoice.due.currency

theorem isSeparate_sameCurrency : IsSeparate sameCurrency :=
  fun _ _ h ↦ of_decide_eq_true h

theorem isSeparate_withinTolerance (tolerance : Nat) : IsSeparate (withinTolerance tolerance) :=
  fun payment invoice h ↦
    isSeparate_sameCurrency payment invoice (Bool.and_eq_true_iff.mp h).1

def Row.isIn (currency : Currency) (row : Row) : Bool :=
  row.payment.amount.currency = currency

def Candidate.isIn (currency : Currency) (candidate : Candidate) : Bool :=
  candidate.invoice.due.currency = currency

/-- The rows and the free invoices of one currency. -/
def Sheet.within (currency : Currency) (sheet : Sheet) : Sheet :=
  ⟨sheet.rows.filter (·.isIn currency), sheet.free.filter (·.isIn currency)⟩

theorem Sheet.within_cons_of_isIn {currency : Currency} {row : Row}
    (h : row.isIn currency = true) (rows : List Row) (free : List Candidate) :
    Sheet.within currency ⟨row :: rows, free⟩ =
      ⟨row :: (Sheet.within currency ⟨rows, free⟩).rows,
        (Sheet.within currency ⟨rows, free⟩).free⟩ := by
  simp only [within, List.filter_cons_of_pos h]

theorem Sheet.within_cons_of_not_isIn {currency : Currency} {row : Row}
    (h : row.isIn currency = false) (rows : List Row) (free : List Candidate) :
    Sheet.within currency ⟨row :: rows, free⟩ = Sheet.within currency ⟨rows, free⟩ := by
  have hneg : ¬ row.isIn currency = true := by rw [h]; exact Bool.false_ne_true
  simp only [within, List.filter_cons_of_neg hneg]

theorem takeFirst?_append {α : Type} {fits : α → Bool} {before after : List α} {found : α}
    (hfound : fits found = true) (hbefore : ∀ x ∈ before, fits x = false) :
    takeFirst? fits (before ++ found :: after) = some (found, before ++ after) := by
  induction before with
  | nil => simp [takeFirst?, hfound]
  | cons x rest ih =>
    rw [List.forall_mem_cons] at hbefore
    simp [takeFirst?, hbefore.1, ih hbefore.2]

section

variable {fits : PaymentRecord → InvoiceRecord → Bool} (hfits : IsSeparate fits) (outside : Bool)
  (currency : Currency)

include hfits in
/-- A pass over one currency does not depend on the others. -/
theorem choose_within (rows : List Row) (free : List Candidate) :
    (choose fits outside rows free).within currency =
      choose fits outside (rows.filter (·.isIn currency)) (free.filter (·.isIn currency)) := by
  induction rows generalizing free with
  | nil => rfl
  | cons row rest ih =>
    obtain hkept | ⟨payment, c, before, after, rfl, rfl, hfit, hbefore, htook⟩ :=
      row_cases fits row free
    · rw [choose_cons_kept fits outside hkept]
      cases hrow : row.isIn currency with
      | true =>
        have hkept' : row.choice = none →
            ∀ c ∈ free.filter (·.isIn currency), fits row.payment c.invoice = false :=
          fun hnone c hc ↦ hkept hnone c (List.mem_of_mem_filter hc)
        rw [Sheet.within_cons_of_isIn hrow, List.filter_cons_of_pos hrow,
          choose_cons_kept fits outside hkept', ih free]
      | false =>
        rw [Sheet.within_cons_of_not_isIn hrow, List.filter_cons_of_neg (by simp [hrow]), ih free]
    -- What a payment takes is in its own currency: it goes with the payment.
    · have hsame : payment.amount.currency = c.invoice.due.currency := hfits payment c.invoice hfit
      rw [choose_cons_took fits outside htook]
      by_cases hrow : payment.amount.currency = currency
      · have hin (choice : Option Choice) : (Row.mk payment choice).isIn currency = true :=
          decide_eq_true hrow
        have hc : c.isIn currency = true := decide_eq_true (hsame ▸ hrow)
        have htook' : takeFirst? (fun c : Candidate ↦ fits payment c.invoice)
            ((before ++ c :: after).filter (·.isIn currency)) =
            some (c, (before ++ after).filter (·.isIn currency)) := by
          rw [List.filter_append, List.filter_cons_of_pos hc, List.filter_append]
          exact takeFirst?_append hfit fun x hx ↦ hbefore x (List.mem_of_mem_filter hx)
        rw [Sheet.within_cons_of_isIn (hin _), List.filter_cons_of_pos (hin none),
          choose_cons_took fits outside htook', ih (before ++ after)]
      · have hout (choice : Option Choice) : (Row.mk payment choice).isIn currency = false :=
          decide_eq_false hrow
        have hc : ¬ c.isIn currency = true := fun h ↦ hrow (hsame.trans (of_decide_eq_true h))
        rw [Sheet.within_cons_of_not_isIn (hout _), List.filter_cons_of_neg (by simp [hout]),
          ih (before ++ after), List.filter_append, List.filter_append, List.filter_cons_of_neg hc]

end

/-! ## Positions -/

/-- A candidate without its position. -/
def Candidate.unplaced (candidate : Candidate) : Candidate :=
  ⟨candidate.invoice, 0⟩

def Row.unplaced (row : Row) : Row :=
  ⟨row.payment, row.choice.map fun choice ↦ ⟨choice.candidate.unplaced, choice.outsideTolerance⟩⟩

def Sheet.unplaced (sheet : Sheet) : Sheet :=
  ⟨sheet.rows.map Row.unplaced, sheet.free.map Candidate.unplaced⟩

/-- A pass does not look at positions. -/
theorem choose_unplaced (fits : PaymentRecord → InvoiceRecord → Bool) (outside : Bool)
    (rows : List Row) (free : List Candidate) :
    (choose fits outside rows free).unplaced =
      choose fits outside (rows.map Row.unplaced) (free.map Candidate.unplaced) := by
  induction rows generalizing free with
  | nil => rfl
  | cons row rest ih =>
    obtain hkept | ⟨payment, c, before, after, rfl, rfl, hfit, hbefore, htook⟩ :=
      row_cases fits row free
    · have hkept' : row.unplaced.choice = none →
          ∀ c ∈ free.map Candidate.unplaced, fits row.unplaced.payment c.invoice = false := by
        intro hnone
        rw [List.forall_mem_map]
        exact hkept (Option.map_eq_none_iff.mp hnone)
      rw [choose_cons_kept fits outside hkept, List.map_cons, choose_cons_kept fits outside hkept',
        ← ih free]
      rfl
    · have htook' : takeFirst? (fun c : Candidate ↦ fits payment c.invoice)
          ((before ++ c :: after).map Candidate.unplaced) =
          some (c.unplaced, (before ++ after).map Candidate.unplaced) := by
        rw [List.map_append, List.map_cons, List.map_append]
        exact takeFirst?_append hfit (List.forall_mem_map.mpr hbefore)
      rw [choose_cons_took fits outside htook, List.map_cons]
      have hrow : (Row.mk payment none).unplaced = Row.mk payment none := rfl
      rw [hrow, choose_cons_took fits outside htook', ← ih (before ++ after)]
      rfl

/-! ## Both passes -/

def paymentsIn (currency : Currency) (payments : List PaymentRecord) : List PaymentRecord :=
  payments.filter (·.amount.currency = currency)

def invoicesIn (currency : Currency) (invoices : List InvoiceRecord) : List InvoiceRecord :=
  invoices.filter (·.due.currency = currency)

section

variable (settings : ReconciliationSettings) (currency : Currency) (payments : List PaymentRecord)
  (invoices : List InvoiceRecord)

theorem blankRows_paymentsIn :
    (blankRows payments).filter (·.isIn currency) = blankRows (paymentsIn currency payments) := by
  simp only [blankRows, paymentsIn, List.filter_map, Function.comp_def, Row.isIn]
  rw [List.filter_filter, List.filter_filter]
  simp only [Bool.and_comm]

theorem candidates_invoicesIn :
    ((candidates invoices).filter (·.isIn currency)).map Candidate.unplaced =
      (candidates (invoicesIn currency invoices)).map Candidate.unplaced := by
  have hinvoices (list : List InvoiceRecord) :
      (candidates list).map Candidate.invoice = list.filter (·.isOpen) := by
    rw [candidates, List.map_map]
    exact List.zipIdx_map_fst 0 _
  have hunplaced (list : List Candidate) :
      list.map Candidate.unplaced = (list.map Candidate.invoice).map (⟨·, 0⟩) := by
    rw [List.map_map]
    rfl
  have hfilter : ((candidates invoices).filter (·.isIn currency)).map Candidate.invoice =
      ((candidates invoices).map Candidate.invoice).filter (·.due.currency = currency) := by
    rw [List.filter_map]
    rfl
  rw [hunplaced, hunplaced, hfilter, hinvoices, hinvoices, invoicesIn, List.filter_filter,
    List.filter_filter]
  simp only [Bool.and_comm]

theorem firstPass_within (tolerance : Nat) :
    ((firstPass tolerance payments invoices).within currency).unplaced =
      (firstPass tolerance (paymentsIn currency payments)
        (invoicesIn currency invoices)).unplaced := by
  rw [firstPass, firstPass, choose_within (isSeparate_withinTolerance tolerance), choose_unplaced,
    choose_unplaced, blankRows_paymentsIn, candidates_invoicesIn]

theorem secondPass_within (sheet : Sheet) :
    (secondPass sheet).within currency = secondPass (sheet.within currency) :=
  choose_within isSeparate_sameCurrency true currency sheet.rows sheet.free

theorem secondPass_unplaced (sheet : Sheet) :
    (secondPass sheet).unplaced = secondPass sheet.unplaced :=
  choose_unplaced sameCurrency true sheet.rows sheet.free

/-- A currency is paired as it is paired alone. -/
theorem pair_within :
    ((pair settings payments invoices).within currency).unplaced =
      (pair settings (paymentsIn currency payments) (invoicesIn currency invoices)).unplaced := by
  have hfirst := firstPass_within currency payments invoices settings.tolerance
  unfold pair
  split
  · rw [secondPass_within, secondPass_unplaced, hfirst, secondPass_unplaced]
  · exact hfirst

end

/-! ## Reports -/

/-- What a report says about one currency. -/
structure CurrencyReport where
  paired : List Match
  exceptions : List ReportException
  matchedMinor : Option Nat

def Report.about (currency : Currency) (report : Report) : CurrencyReport where
  paired := report.paired.filter (·.amount.currency = currency)
  exceptions := report.exceptions.filter (·.amount.currency = currency)
  matchedMinor := report.summary.matchedMinor.lookup currency.code

section

variable {β : Type} {collect : Row → Option β}

/-- What is collected from rows, in the currency of the rows it is collected from. -/
theorem filter_filterMap_rows {amount : β → Money}
    (hcollect : ∀ row found, collect row = some found →
      (amount found).currency = row.payment.amount.currency) (currency : Currency)
    (rows : List Row) :
    (rows.filterMap collect).filter (fun found ↦ (amount found).currency = currency) =
      (rows.filter (·.isIn currency)).filterMap collect := by
  rw [List.filter_filterMap, List.filterMap_filter]
  apply List.filterMap_congr
  intro row _
  cases hrow : collect row with
  | none => simp
  | some found => simp [Option.filter, Row.isIn, hcollect row found hrow]

theorem filterMap_unplaced (hcollect : ∀ row, collect row.unplaced = collect row)
    (rows : List Row) : (rows.map Row.unplaced).filterMap collect = rows.filterMap collect := by
  rw [List.filterMap_map]
  exact List.filterMap_congr fun row _ ↦ hcollect row

end

theorem Row.match?_currency {row : Row} {found : Match} (h : row.match? = some found) :
    found.amount.currency = row.payment.amount.currency := by
  obtain ⟨choice, -, rfl⟩ := Option.map_eq_some_iff.mp h
  rfl

theorem Row.exception?_currency {row : Row} {found : ReportException}
    (h : row.exception? = some found) : found.amount.currency = row.payment.amount.currency := by
  rw [exception?] at h
  split at h
  · obtain rfl := Option.some.inj h
    rfl
  · split at h
    · obtain rfl := Option.some.inj h
      rfl
    · contradiction

theorem Row.match?_unplaced (row : Row) : row.unplaced.match? = row.match? := by
  rw [match?, match?, unplaced, Option.map_map]
  rfl

theorem Row.exception?_unplaced (row : Row) : row.unplaced.exception? = row.exception? := by
  obtain ⟨payment, _ | choice⟩ := row <;> rfl

/-- The matches that a sheet stands for. -/
def Sheet.paired (sheet : Sheet) : List Match :=
  sheet.rows.filterMap Row.match?

/-- The exceptions that a sheet stands for. -/
def Sheet.exceptions (sheet : Sheet) : List ReportException :=
  sheet.rows.filterMap Row.exception? ++
    sheet.free.map fun candidate ↦ unmatchedInvoice candidate.invoice

theorem Sheet.paired_unplaced (sheet : Sheet) : sheet.unplaced.paired = sheet.paired :=
  filterMap_unplaced Row.match?_unplaced sheet.rows

theorem Sheet.exceptions_unplaced (sheet : Sheet) :
    sheet.unplaced.exceptions = sheet.exceptions := by
  rw [exceptions, exceptions, unplaced, filterMap_unplaced Row.exception?_unplaced, List.map_map]
  rfl

theorem Sheet.paired_within (currency : Currency) (sheet : Sheet) :
    sheet.paired.filter (·.amount.currency = currency) = (sheet.within currency).paired :=
  filter_filterMap_rows (fun _ _ ↦ Row.match?_currency) currency sheet.rows

theorem Sheet.exceptions_within (currency : Currency) (sheet : Sheet) :
    sheet.exceptions.filter (·.amount.currency = currency) =
      (sheet.within currency).exceptions := by
  rw [exceptions, List.filter_append,
    filter_filterMap_rows (fun _ _ ↦ Row.exception?_currency) currency sheet.rows, List.filter_map]
  rfl

section

variable (settings : ReconciliationSettings) (currency : Currency) (payments : List PaymentRecord)
  (invoices : List InvoiceRecord)

/-- Whatever is read from a sheet without its positions. -/
theorem view_pair_within {β : Type} {view : Sheet → β}
    (hview : ∀ sheet : Sheet, view sheet.unplaced = view sheet) :
    view ((pair settings payments invoices).within currency) =
      view (pair settings (paymentsIn currency payments) (invoicesIn currency invoices)) := by
  calc
    _ = view ((pair settings payments invoices).within currency).unplaced := (hview _).symm
    _ = view (pair settings (paymentsIn currency payments)
          (invoicesIn currency invoices)).unplaced := by
      rw [pair_within]
    _ = _ := hview _

theorem paired_paymentsIn :
    (reconcile settings payments invoices).paired.filter (·.amount.currency = currency) =
      (reconcile settings (paymentsIn currency payments)
        (invoicesIn currency invoices)).paired := by
  calc
    _ = ((pair settings payments invoices).within currency).paired := Sheet.paired_within currency _
    _ = _ := view_pair_within settings currency payments invoices Sheet.paired_unplaced

theorem exceptions_paymentsIn :
    (reconcile settings payments invoices).exceptions.filter (·.amount.currency = currency) =
      (reconcile settings (paymentsIn currency payments)
        (invoicesIn currency invoices)).exceptions := by
  calc
    _ = ((pair settings payments invoices).within currency).exceptions :=
      Sheet.exceptions_within currency _
    _ = _ := view_pair_within settings currency payments invoices Sheet.exceptions_unplaced

/-- What is said about a currency is the whole report on its records. -/
theorem about_reconcile :
    (reconcile settings payments invoices).about currency =
      let alone := reconcile settings (paymentsIn currency payments) (invoicesIn currency invoices)
      ⟨alone.paired, alone.exceptions, alone.summary.matchedMinor.lookup currency.code⟩ := by
  have hpaired := paired_paymentsIn settings currency payments invoices
  have htotal : (reconcile settings payments invoices).summary.matchedMinor.lookup currency.code =
      (Totals.ofMatches (reconcile settings (paymentsIn currency payments)
        (invoicesIn currency invoices)).paired).lookup currency.code := by
    rw [← hpaired]
    exact Totals.lookup_ofMatches currency _
  rw [Report.about, hpaired, exceptions_paymentsIn, htotal]
  rfl

end

/-- A payment of 12 units. -/
def paymentOf (id code : String) (isCode : IsCurrencyCode code) : PaymentRecord :=
  ⟨id, ⟨1200, ⟨code, isCode⟩, by decide⟩, .succeeded, none, none, none⟩

/-- An invoice of 12 units. -/
def invoiceOf (id code : String) (isCode : IsCurrencyCode code) : InvoiceRecord :=
  ⟨id, ⟨1200, ⟨code, isCode⟩, by decide⟩, .outstanding, none⟩

end MobileMoney.Reconciliation
