import MobileMoney.Proofs.Reconciliation.Totals

/-!
# Totals that overflow

The summary of a report has a total for each currency of its matches.  It is the sum of the matches
as long as that fits 64 bits.  Where it does not, the run is aborted if additions are checked, and
otherwise the total is the sum modulo `2 ^ 64`.  No sum exceeds what was paid or what was due in the
currency, but neither of these is bounded.
-/

namespace MobileMoney.Reconciliation

/-- What has been matched in a currency. -/
def Report.matchedIn (report : Report) (currency : Currency) : Nat :=
  total currency (report.paired.map Match.amount)

/-- A table with one entry for each currency of some matches, in the order of the codes, that holds
the value of the currency. -/
structure IsTableOf (found : List Match) (value : Currency → Nat) (totals : Totals) : Prop where
  sorted : totals.IsSorted
  codes : ∀ code, code ∈ totals.map Prod.fst ↔ ∃ entry ∈ found, entry.amount.currency.code = code
  values : ∀ entry ∈ found,
    totals.lookup entry.amount.currency.code = some (value entry.amount.currency)

namespace Totals

variable (found : List Match)

theorem isTableOf_ofMatches :
    IsTableOf found (fun currency ↦ total currency (found.map Match.amount) % modulus)
      (ofMatches found) where
  sorted := isSorted_ofMatches found
  codes code := by
    rw [List.mem_map]
    constructor
    · intro hcode
      obtain ⟨cell, hcell, rfl⟩ := hcode
      exact exists_of_mem_ofMatches found hcell
    · intro hcode
      obtain ⟨entry, hentry, rfl⟩ := hcode
      by_contra hnot
      have hnone : (ofMatches found).lookup entry.amount.currency.code = none :=
        List.lookup_eq_none_iff.mpr fun cell hcell ↦
          bne_iff_ne.mpr fun heq ↦ hnot ⟨cell, hcell, heq.symm⟩
      rw [lookup_ofMatches_eq, if_pos ⟨entry, hentry, rfl⟩] at hnone
      cases hnone
  values entry hentry := by
    rw [lookup_ofMatches_eq, if_pos ⟨entry, hentry, rfl⟩]

end Totals

/-! ## Exactness -/

theorem IsTableOf.value_congr {found : List Match} {value value' : Currency → Nat}
    {totals : Totals} (h : IsTableOf found value totals) (h' : IsTableOf found value' totals)
    {entry : Match} (hentry : entry ∈ found) :
    value entry.amount.currency = value' entry.amount.currency :=
  Option.some.inj ((h.values entry hentry).symm.trans (h'.values entry hentry))

section

variable (settings : ReconciliationSettings) (payments : List PaymentRecord)
  (invoices : List InvoiceRecord)

theorem matchedIn_le (currency : Currency) :
    (reconcile settings payments invoices).matchedIn currency ≤
        total currency ((payments.filter (·.isSucceeded)).map PaymentRecord.amount) ∧
      (reconcile settings payments invoices).matchedIn currency ≤
        total currency ((invoices.filter (·.isOpen)).map InvoiceRecord.due) := by
  have hpairing := joins_isPairing settings payments invoices
  have hreport := reconcile_isReportOf settings payments invoices
  have hpaid := hreport.total_paid hpairing currency
  have hdue := hreport.total_due hpairing currency
  unfold Report.matchedIn
  omega

/-- Where additions are not checked, totals wrap. -/
theorem totals_wrap :
    let report := reconcile settings payments invoices
    IsTableOf report.paired (fun currency ↦ report.matchedIn currency % UInt64.size)
      report.summary.matchedMinor :=
  Totals.isTableOf_ofMatches _

theorem totals_exact_iff :
    let report := reconcile settings payments invoices
    IsTableOf report.paired report.matchedIn report.summary.matchedMinor ↔
      ∀ currency, report.matchedIn currency < UInt64.size := by
  intro report
  have hwrapped : IsTableOf report.paired (fun currency ↦ report.matchedIn currency % UInt64.size)
      report.summary.matchedMinor := totals_wrap settings payments invoices
  constructor
  · intro hexact currency
    by_cases hmatched : ∃ entry ∈ report.paired, entry.amount.currency = currency
    · obtain ⟨entry, hentry, rfl⟩ := hmatched
      rw [hexact.value_congr hwrapped hentry]
      exact Nat.mod_lt _ (by decide)
    · rw [Report.matchedIn, total_of_unmatched hmatched]
      decide
  · intro hsmall
    have hsame : (fun currency ↦ report.matchedIn currency % UInt64.size) = report.matchedIn := by
      funext currency
      exact Nat.mod_eq_of_lt (hsmall currency)
    rwa [hsame] at hwrapped

/-- Checked additions give the report with wrapping totals, or nothing. -/
theorem reconcile?_eq_some_iff {found : Report} :
    reconcile? settings payments invoices = some found ↔
      reconcile settings payments invoices = found ∧
        ∀ currency, (reconcile settings payments invoices).matchedIn currency < UInt64.size := by
  unfold reconcile?
  dsimp only
  rw [Option.map_eq_some_iff]
  simp only [Totals.ofMatches?_eq_some_iff]
  constructor
  · rintro ⟨_, ⟨rfl, hsmall⟩, rfl⟩
    exact ⟨rfl, hsmall⟩
  · rintro ⟨rfl, hsmall⟩
    exact ⟨_, ⟨rfl, hsmall⟩, rfl⟩

theorem reconcile?_eq_none_iff :
    reconcile? settings payments invoices = none ↔
      ∃ currency, UInt64.size ≤ (reconcile settings payments invoices).matchedIn currency := by
  rw [Option.eq_none_iff_forall_ne_some]
  simp only [ne_eq, reconcile?_eq_some_iff, not_and, not_forall, Nat.not_lt, forall_eq']

/-- **Totals are exact or overflow.**  Where additions are checked, there is a report exactly if no
sum of the matches of a currency exceeds 64 bits, and otherwise the run is aborted.  Its summary has
one total for each currency of the matches, and exactly then all of them are the sums.  Where
additions are not checked, a total is the sum modulo `2 ^ 64`.  What is matched in a currency is at
most what was paid in it and at most what was due. -/
theorem reconcile_totals_overflow :
    let report := reconcile settings payments invoices
    (reconcile? settings payments invoices = some report ↔
        ∀ currency, report.matchedIn currency < UInt64.size) ∧
      (reconcile? settings payments invoices = none ↔
        ∃ currency, UInt64.size ≤ report.matchedIn currency) ∧
      (IsTableOf report.paired report.matchedIn report.summary.matchedMinor ↔
        ∀ currency, report.matchedIn currency < UInt64.size) ∧
      IsTableOf report.paired (fun currency ↦ report.matchedIn currency % UInt64.size)
        report.summary.matchedMinor ∧
      ∀ currency,
        report.matchedIn currency ≤
            total currency ((payments.filter (·.isSucceeded)).map PaymentRecord.amount) ∧
          report.matchedIn currency ≤
            total currency ((invoices.filter (·.isOpen)).map InvoiceRecord.due) := by
  intro report
  refine ⟨?_, reconcile?_eq_none_iff settings payments invoices,
    totals_exact_iff settings payments invoices, totals_wrap settings payments invoices,
    matchedIn_le settings payments invoices⟩
  exact (reconcile?_eq_some_iff settings payments invoices).trans (and_iff_right rfl)

end

/-! ## A sum beyond 64 bits -/

def received (currency : Currency) (id : String) (minor : Nat) (fits : minor < UInt64.size) :
    PaymentRecord :=
  ⟨id, ⟨minor, currency, fits⟩, .succeeded, none, none, none⟩

def owed (currency : Currency) (id : String) (minor : Nat) (fits : minor < UInt64.size) :
    InvoiceRecord :=
  ⟨id, ⟨minor, currency, fits⟩, .outstanding, none⟩

/-- The greatest amount and one more unit, both paid as they are due, abort the run.  Where
additions are not checked, they come to a total of nothing. -/
theorem not_forall_totals_exact :
    ¬ (∀ (settings : ReconciliationSettings) (payments : List PaymentRecord)
        (invoices : List InvoiceRecord), ∃ report,
      reconcile? settings payments invoices = some report ∧
        IsTableOf report.paired report.matchedIn report.summary.matchedMinor) ∧
    ¬ ∀ (settings : ReconciliationSettings) (payments : List PaymentRecord)
        (invoices : List InvoiceRecord),
      let report := reconcile settings payments invoices
      IsTableOf report.paired report.matchedIn report.summary.matchedMinor := by
  let kes : Currency := ⟨"KES", by decide⟩
  let payments := [received kes "P-1" 18446744073709551615 (by decide),
    received kes "P-2" 1 (by decide)]
  let invoices := [owed kes "I-1" 18446744073709551615 (by decide), owed kes "I-2" 1 (by decide)]
  have hsum : UInt64.size ≤ (reconcile .standard payments invoices).matchedIn kes := by decide
  constructor
  · intro hall
    obtain ⟨report, hreport, -⟩ := hall .standard payments invoices
    obtain ⟨-, hsmall⟩ := (reconcile?_eq_some_iff ..).mp hreport
    exact Nat.not_lt.mpr hsum (hsmall kes)
  · intro hall
    have hsmall := (totals_exact_iff ..).mp (hall .standard payments invoices)
    exact Nat.not_lt.mpr hsum (hsmall kes)

end MobileMoney.Reconciliation
