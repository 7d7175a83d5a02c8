import Mathlib.Data.List.Forall2
import Mathlib.Data.List.Perm.Basic
import MobileMoney.Reconciliation.Pairing

/-!
# What a pass over the payments does

One pass gives the first free invoice that fits to every payment without one.  `RowPass` says all
that can become of a row: it is kept, and then nothing that is free at the end fits it, or it takes
an invoice that fits and stands before every fitting one that is free at the end.  No invoice is
lost or doubled by a pass: those taken and those free are a rearrangement of what they were.
-/

namespace MobileMoney.Reconciliation

theorem takeFirst?_eq_none_iff {α : Type} {fits : α → Bool} {free : List α} :
    takeFirst? fits free = none ↔ ∀ x ∈ free, fits x = false := by
  induction free with
  | nil => simp [takeFirst?]
  | cons x rest ih => by_cases h : fits x <;> simp [takeFirst?, h, ih]

/-- What is taken is the first that fits, and the others keep their order. -/
theorem takeFirst?_eq_some {α : Type} {fits : α → Bool} {free others : List α} {found : α}
    (h : takeFirst? fits free = some (found, others)) :
    ∃ before after, free = before ++ found :: after ∧ others = before ++ after ∧
      fits found = true ∧ ∀ x ∈ before, fits x = false := by
  induction free generalizing others with
  | nil => simp [takeFirst?] at h
  | cons x rest ih =>
    by_cases hx : fits x
    · simp only [takeFirst?, hx, if_true, Option.some.injEq, Prod.mk.injEq] at h
      obtain ⟨rfl, rfl⟩ := h
      exact ⟨[], rest, rfl, rfl, hx, by simp⟩
    · simp only [takeFirst?, hx, Bool.false_eq_true, if_false, Option.map_eq_some_iff] at h
      obtain ⟨⟨found', others'⟩, hrest, heq⟩ := h
      simp only [Prod.mk.injEq] at heq
      obtain ⟨rfl, rfl⟩ := heq
      obtain ⟨before, after, rfl, rfl, hfits, hbefore⟩ := ih hrest
      refine ⟨x :: before, after, rfl, rfl, hfits, ?_⟩
      rintro y (_ | ⟨_, hy⟩)
      · simpa using hx
      · exact hbefore y hy

/-- The invoice that a row has. -/
def Row.candidate? (row : Row) : Option Candidate :=
  row.choice.map Choice.candidate

/-- The invoices that rows have. -/
def taken (rows : List Row) : List Candidate :=
  rows.filterMap Row.candidate?

/-- Positions grow along a list of candidates. -/
def InOrder (free : List Candidate) : Prop :=
  free.Pairwise fun a b ↦ a.position < b.position

/-- What a pass makes of a row, where `free` and `left` are free before and after the pass. -/
inductive RowPass (fits : PaymentRecord → InvoiceRecord → Bool) (outside : Bool)
    (free left : List Candidate) : Row → Row → Prop
  | kept {row : Row}
      (leftover : row.choice = none → ∀ c ∈ left, fits row.payment c.invoice = false) :
      RowPass fits outside free left row row
  | took {payment : PaymentRecord} {c : Candidate} (mem : c ∈ free)
      (fit : fits payment c.invoice = true)
      (first : ∀ other ∈ left, fits payment other.invoice = true → c.position < other.position) :
      RowPass fits outside free left ⟨payment, none⟩ ⟨payment, some ⟨c, outside⟩⟩

section

variable (fits : PaymentRecord → InvoiceRecord → Bool) (outside : Bool)

/-- A row that keeps its state leaves the free invoices to the rest. -/
theorem choose_cons_kept {row : Row} {rest : List Row} {free : List Candidate}
    (h : row.choice = none → ∀ c ∈ free, fits row.payment c.invoice = false) :
    choose fits outside (row :: rest) free =
      ⟨row :: (choose fits outside rest free).rows, (choose fits outside rest free).free⟩ := by
  have hfound : (if row.choice.isSome then none
      else takeFirst? (fun c : Candidate ↦ fits row.payment c.invoice) free) = none := by
    split
    · rfl
    · next hsome => exact takeFirst?_eq_none_iff.mpr (h (by simpa using hsome))
  simp only [choose, hfound]

theorem choose_cons_took {payment : PaymentRecord} {rest : List Row} {free others : List Candidate}
    {c : Candidate} (h : takeFirst? (fun c : Candidate ↦ fits payment c.invoice) free =
      some (c, others)) :
    choose fits outside (⟨payment, none⟩ :: rest) free =
      ⟨⟨payment, some ⟨c, outside⟩⟩ :: (choose fits outside rest others).rows,
        (choose fits outside rest others).free⟩ := by
  simp [choose, h]

/-- Either way of a row: it is kept, or it takes the first free invoice that fits. -/
theorem row_cases (row : Row) (free : List Candidate) :
    (row.choice = none → ∀ c ∈ free, fits row.payment c.invoice = false) ∨
      ∃ payment c before after, row = ⟨payment, none⟩ ∧ free = before ++ c :: after ∧
        fits payment c.invoice = true ∧ (∀ other ∈ before, fits payment other.invoice = false) ∧
        takeFirst? (fun c : Candidate ↦ fits payment c.invoice) free =
          some (c, before ++ after) := by
  obtain ⟨payment, _ | choice⟩ := row
  · cases h : takeFirst? (fun c : Candidate ↦ fits payment c.invoice) free with
    | none => exact .inl fun _ ↦ takeFirst?_eq_none_iff.mp h
    | some found =>
      obtain ⟨c, others⟩ := found
      obtain ⟨before, after, rfl, rfl, hfits, hbefore⟩ := takeFirst?_eq_some h
      exact .inr ⟨payment, c, before, after, rfl, rfl, hfits, hbefore, h⟩
  · exact .inl (by simp)

theorem choose_free_sublist (rows : List Row) (free : List Candidate) :
    (choose fits outside rows free).free.Sublist free := by
  induction rows generalizing free with
  | nil => exact List.Sublist.refl free
  | cons row rest ih =>
    obtain hkept | ⟨payment, c, before, after, rfl, rfl, -, -, htook⟩ := row_cases fits row free
    · rw [choose_cons_kept fits outside hkept]
      exact ih free
    · rw [choose_cons_took fits outside htook]
      exact (ih (before ++ after)).trans ((List.sublist_cons_self c after).append_left before)

/-- A pass loses no invoice and gives none away twice. -/
theorem choose_perm (rows : List Row) (free : List Candidate) :
    (taken (choose fits outside rows free).rows ++ (choose fits outside rows free).free).Perm
      (taken rows ++ free) := by
  induction rows generalizing free with
  | nil => exact List.Perm.refl _
  | cons row rest ih =>
    obtain hkept | ⟨payment, c, before, after, rfl, rfl, -, -, htook⟩ := row_cases fits row free
    · rw [choose_cons_kept fits outside hkept]
      cases hrow : row.candidate? with
      | none => simpa [taken, hrow] using ih free
      | some c => simpa [taken, hrow] using ih free
    · rw [choose_cons_took fits outside htook]
      have hih := (ih (before ++ after)).cons c
      simp only [taken, Row.candidate?, List.filterMap_cons, Option.map_some, Option.map_none,
        List.cons_append] at hih ⊢
      refine hih.trans ?_
      rw [← List.append_assoc, ← List.append_assoc]
      exact List.perm_middle.symm

omit fits outside in
theorem InOrder.position_lt {before after : List Candidate} {c other : Candidate}
    (h : InOrder (before ++ c :: after)) (hother : other ∈ after) :
    c.position < other.position :=
  (List.pairwise_cons.mp (List.pairwise_append.mp h).2.1).1 other hother

theorem RowPass.mono {free more left : List Candidate} {old new : Row}
    (h : RowPass fits outside free left old new) (hfree : free ⊆ more) :
    RowPass fits outside more left old new := by
  cases h with
  | kept leftover => exact .kept leftover
  | took mem fit first => exact .took (hfree mem) fit first

/-- Every row of a pass is kept or takes an invoice, as `RowPass` says. -/
theorem choose_forall₂ (rows : List Row) {free : List Candidate} (hfree : InOrder free) :
    List.Forall₂ (RowPass fits outside free (choose fits outside rows free).free) rows
      (choose fits outside rows free).rows := by
  induction rows generalizing free with
  | nil => exact .nil
  | cons row rest ih =>
    obtain hkept | ⟨payment, c, before, after, rfl, rfl, hfits, hbefore, htook⟩ :=
      row_cases fits row free
    · rw [choose_cons_kept fits outside hkept]
      refine .cons (.kept fun hrow other hother ↦ hkept hrow other ?_) (ih hfree)
      exact (choose_free_sublist fits outside rest free).subset hother
    · rw [choose_cons_took fits outside htook]
      have hothers : (before ++ after).Sublist (before ++ c :: after) :=
        (List.sublist_cons_self c after).append_left before
      refine .cons (.took (by simp) hfits fun other hother hfit ↦ ?_) ?_
      -- An invoice that is left was free for this row too, and those before `c` do not fit it.
      · have hmem := (choose_free_sublist fits outside rest (before ++ after)).subset hother
        rcases List.mem_append.mp hmem with hmem | hmem
        · rw [hbefore other hmem] at hfit
          contradiction
        · exact hfree.position_lt hmem
      · exact (ih (hfree.sublist hothers)).imp fun _ _ h ↦ h.mono fits outside hothers.subset

/-- Every row after a pass comes from one before it. -/
theorem exists_rowPass_of_mem_choose {rows : List Row} {free : List Candidate}
    (hfree : InOrder free) {new : Row} (hnew : new ∈ (choose fits outside rows free).rows) :
    ∃ old ∈ rows, RowPass fits outside free (choose fits outside rows free).free old new := by
  have h := choose_forall₂ fits outside rows hfree
  obtain ⟨i, hi, rfl⟩ := List.mem_iff_getElem.mp hnew
  have hold : i < rows.length := h.length_eq ▸ hi
  exact ⟨rows[i], List.getElem_mem hold, h.get hold hi⟩

end

/-! ## Both passes -/

/-- What both passes make of a row.  `spare` is what the first pass leaves free, `left` what is free
at the end. -/
inductive Settled (tolerance : Nat) (fallback : Bool) (spare left : List Candidate) : Row → Prop
  | unmatched {payment : PaymentRecord}
      (far : ∀ c ∈ spare, withinTolerance tolerance payment c.invoice = false)
      (foreign : fallback = true → ∀ c ∈ left, sameCurrency payment c.invoice = false) :
      Settled tolerance fallback spare left ⟨payment, none⟩
  | within {payment : PaymentRecord} {c : Candidate}
      (fit : withinTolerance tolerance payment c.invoice = true)
      (first : ∀ other ∈ spare, withinTolerance tolerance payment other.invoice = true →
        c.position < other.position) :
      Settled tolerance fallback spare left ⟨payment, some ⟨c, false⟩⟩
  | outside {payment : PaymentRecord} {c : Candidate} (fallback_on : fallback = true)
      (mem : c ∈ spare) (same : sameCurrency payment c.invoice = true)
      (far : ∀ other ∈ spare, withinTolerance tolerance payment other.invoice = false) :
      Settled tolerance fallback spare left ⟨payment, some ⟨c, true⟩⟩

theorem RowPass.payment_eq {fits : PaymentRecord → InvoiceRecord → Bool} {outside : Bool}
    {free left : List Candidate} {old new : Row} (h : RowPass fits outside free left old new) :
    new.payment = old.payment := by
  cases h <;> rfl

theorem choose_payments (fits : PaymentRecord → InvoiceRecord → Bool) (outside : Bool)
    (rows : List Row) {free : List Candidate} (hfree : InOrder free) :
    (choose fits outside rows free).rows.map Row.payment = rows.map Row.payment := by
  have h := choose_forall₂ fits outside rows hfree
  generalize (choose fits outside rows free).rows = rows' at h ⊢
  generalize (choose fits outside rows free).free = left at h
  induction h with
  | nil => rfl
  | cons hrow _ ih => simp only [List.map_cons, hrow.payment_eq, ih]

@[simp]
theorem blankRows_payments (payments : List PaymentRecord) :
    (blankRows payments).map Row.payment = payments.filter (·.isSucceeded) := by
  simp [blankRows, Function.comp_def]

@[simp]
theorem taken_blankRows (payments : List PaymentRecord) : taken (blankRows payments) = [] := by
  simp [taken, blankRows, Row.candidate?, List.filterMap_map, Function.comp_def]

theorem candidates_inOrder (invoices : List InvoiceRecord) : InOrder (candidates invoices) := by
  unfold InOrder candidates
  rw [List.pairwise_map, List.pairwise_iff_getElem]
  intro i j hi hj hij
  simpa using hij

section

variable (settings : ReconciliationSettings) (payments : List PaymentRecord)
  (invoices : List InvoiceRecord)

theorem firstPass_free_inOrder (tolerance : Nat) :
    InOrder (firstPass tolerance payments invoices).free :=
  (candidates_inOrder invoices).sublist (choose_free_sublist _ _ _ _)

theorem pair_free_sublist_firstPass :
    (pair settings payments invoices).free.Sublist
      (firstPass settings.tolerance payments invoices).free := by
  unfold pair
  split
  · exact choose_free_sublist _ _ _ _
  · exact List.Sublist.refl _

theorem pair_free_sublist :
    (pair settings payments invoices).free.Sublist (candidates invoices) :=
  (pair_free_sublist_firstPass settings payments invoices).trans (choose_free_sublist _ _ _ _)

theorem pair_payments :
    (pair settings payments invoices).rows.map Row.payment =
      payments.filter (·.isSucceeded) := by
  have hfirst : (firstPass settings.tolerance payments invoices).rows.map Row.payment =
      payments.filter (·.isSucceeded) := by
    unfold firstPass
    rw [choose_payments _ _ _ (candidates_inOrder invoices), blankRows_payments]
  unfold pair
  split
  · unfold secondPass
    rw [choose_payments _ _ _ (firstPass_free_inOrder payments invoices _), hfirst]
  · exact hfirst

/-- Both passes together lose no open invoice and give none away twice. -/
theorem pair_perm :
    (taken (pair settings payments invoices).rows ++ (pair settings payments invoices).free).Perm
      (candidates invoices) := by
  have hfirst := choose_perm (withinTolerance settings.tolerance) false (blankRows payments)
    (candidates invoices)
  rw [taken_blankRows, List.nil_append] at hfirst
  unfold pair
  split
  · exact (choose_perm sameCurrency true _ _).trans hfirst
  · exact hfirst

/-- After the first pass a row without an invoice is within the tolerance of none that is free. -/
theorem firstPass_settled {tolerance : Nat} {row : Row}
    (hrow : row ∈ (firstPass tolerance payments invoices).rows) (left : List Candidate) :
    Settled tolerance false (firstPass tolerance payments invoices).free left row := by
  obtain ⟨old, hold, hpass⟩ := exists_rowPass_of_mem_choose (withinTolerance tolerance) false
    (candidates_inOrder invoices) hrow
  have hblank : old.choice = none := by
    simp only [blankRows, List.mem_map] at hold
    obtain ⟨payment, -, rfl⟩ := hold
    rfl
  cases hpass with
  | kept leftover =>
    obtain ⟨payment, choice⟩ := row
    obtain rfl : choice = none := hblank
    exact .unmatched (leftover rfl) (by simp)
  | took mem fit first => exact .within fit first

theorem pair_settled {row : Row} (hrow : row ∈ (pair settings payments invoices).rows) :
    Settled settings.tolerance settings.matchOutsideTolerance
      (firstPass settings.tolerance payments invoices).free
      (pair settings payments invoices).free row := by
  unfold pair at hrow ⊢
  split at hrow
  · next hfallback =>
    rw [if_pos hfallback, hfallback]
    obtain ⟨old, hold, hpass⟩ := exists_rowPass_of_mem_choose sameCurrency true
      (firstPass_free_inOrder payments invoices settings.tolerance) hrow
    have hfirst := firstPass_settled payments invoices hold []
    cases hpass with
    | kept leftover =>
      cases hfirst with
      | unmatched far _ => exact .unmatched far fun _ ↦ leftover rfl
      | within fit first => exact .within fit first
      | outside fallback_on => cases fallback_on
    | took mem fit first =>
      cases hfirst with
      | unmatched far _ => exact .outside rfl mem fit far
  · next hfallback =>
    rw [if_neg hfallback, Bool.eq_false_iff.mpr hfallback]
    exact firstPass_settled payments invoices hrow _

end

end MobileMoney.Reconciliation
