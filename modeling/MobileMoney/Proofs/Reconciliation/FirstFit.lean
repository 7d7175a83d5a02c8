import Mathlib.Order.Bounds.Basic
import MobileMoney.Proofs.Reconciliation.Maximality

/-!
# First fit

Which payment is matched with which invoice can be said without passes.  A payment has the first
invoice within the tolerance that no earlier payment has in this way; one that finds none has, with
the fallback, the first invoice of its currency that nobody has within the tolerance and no earlier
payment has by the fallback.  `IsFirstFit` says this of positions, and no other assignment satisfies
it.  A report lists its entries in the order of the records that they are about.
-/

namespace MobileMoney.Reconciliation

/-! ## Greedy assignments -/

/-- Each position takes the least one that it may take and that no earlier one has taken. -/
def IsGreedy (mayTake takes : Nat → Nat → Prop) : Prop :=
  ∀ i j, takes i j ↔ IsLeast {k | mayTake i k ∧ ∀ earlier < i, ¬ takes earlier k} j

section

variable {mayTake mayTake' takes takes' : Nat → Nat → Prop}

/-- What is greedy below two bounds depends only on what may be taken below them. -/
theorem IsGreedy.agree {rows columns : Nat} (h : IsGreedy mayTake takes)
    (h' : IsGreedy mayTake' takes')
    (hsame : ∀ i < rows, ∀ j < columns, mayTake i j ↔ mayTake' i j) :
    ∀ i < rows, ∀ j < columns, takes i j ↔ takes' i j := by
  intro i
  induction i using Nat.strongRecOn with
  | ind i ih =>
    intro hi
    have hfree : ∀ k < columns, (mayTake i k ∧ ∀ earlier < i, ¬ takes earlier k) ↔
        (mayTake' i k ∧ ∀ earlier < i, ¬ takes' earlier k) := by
      intro k hk
      exact and_congr (hsame i hi k hk) (forall₂_congr fun earlier hlt ↦
        not_congr (ih earlier hlt (Nat.lt_trans hlt hi) k hk))
    intro j hj
    rw [h i j, h' i j]
    -- Columns beyond the bound come after this one.
    have hbound {P Q : Nat → Prop} (hPQ : ∀ k < columns, P k ↔ Q k) :
        IsLeast {k | P k} j → IsLeast {k | Q k} j := by
      intro hleast
      refine ⟨(hPQ j hj).mp hleast.1, fun k hk ↦ ?_⟩
      rcases Nat.lt_or_ge k columns with hlt | hge
      · exact hleast.2 ((hPQ k hlt).mpr hk)
      · exact Nat.le_trans (Nat.le_of_lt hj) hge
    exact ⟨hbound hfree, hbound fun k hk ↦ (hfree k hk).symm⟩

/-- There is only one way of being greedy. -/
theorem IsGreedy.unique (h : IsGreedy mayTake takes) (h' : IsGreedy mayTake takes') :
    takes = takes' := by
  funext i j
  exact propext (h.agree h' (fun _ _ _ _ ↦ Iff.rfl) i (Nat.lt_succ_self i) j (Nat.lt_succ_self j))

theorem IsGreedy.congr (h : ∀ i j, mayTake i j ↔ mayTake' i j) (hgreedy : IsGreedy mayTake takes) :
    IsGreedy mayTake' takes := by
  obtain rfl : mayTake = mayTake' := funext₂ fun i j ↦ propext (h i j)
  exact hgreedy

end

/-- The amounts at two positions fit. -/
def FitsAt (fits : Money → Money → Prop) (paid due : List Money) (i j : Nat) : Prop :=
  ∃ a b, paid[i]? = some a ∧ due[j]? = some b ∧ fits a b

/-- A payment without a match within the tolerance and an invoice of its currency without one. -/
def FallsBackOn (near : Nat → Nat → Prop) (paid due : List Money) (i j : Nat) : Prop :=
  FitsAt (fun a b ↦ a.currency = b.currency) paid due i j ∧
    (∀ k, ¬ near i k) ∧ ∀ other, ¬ near other j

/-- An assignment of payments to invoices, within the tolerance and by the fallback: first fit. -/
structure IsFirstFit (tolerance : Nat) (fallback : Bool) (paid due : List Money)
    (near far : Nat → Nat → Prop) : Prop where
  near_isGreedy : IsGreedy (FitsAt (IsWithin tolerance) paid due) near
  far_isGreedy : IsGreedy (fun i j ↦ fallback = true ∧ FallsBackOn near paid due i j) far

theorem IsFirstFit.unique {tolerance : Nat} {fallback : Bool} {paid due : List Money}
    {near far near' far' : Nat → Nat → Prop}
    (h : IsFirstFit tolerance fallback paid due near far)
    (h' : IsFirstFit tolerance fallback paid due near' far') : near = near' ∧ far = far' := by
  obtain rfl := h.near_isGreedy.unique h'.near_isGreedy
  exact ⟨rfl, h.far_isGreedy.unique h'.far_isGreedy⟩

/-! ## The turn of a row -/

/-- A row after its turn: if it has no invoice it takes the first free one that fits. -/
def Row.pick (fits : PaymentRecord → InvoiceRecord → Bool) (outside : Bool)
    (free : List Candidate) (row : Row) : Row :=
  if row.choice.isSome then row
  else ⟨row.payment, (free.find? fun c ↦ fits row.payment c.invoice).map (⟨·, outside⟩)⟩

/-- A row of a sheet has the invoice at a position, with this mark. -/
def Sheet.Chose (sheet : Sheet) (outside : Bool) (i j : Nat) : Prop :=
  ∃ payment c, sheet.rows[i]? = some ⟨payment, some ⟨c, outside⟩⟩ ∧ c.position = j

section

variable (fits : PaymentRecord → InvoiceRecord → Bool) (outside : Bool)

theorem choose_take (rows : List Row) (free : List Candidate) (i : Nat) :
    (choose fits outside (rows.take i) free).rows =
      (choose fits outside rows free).rows.take i := by
  induction rows generalizing free i with
  | nil => simp [choose]
  | cons row rest ih =>
    cases i with
    | zero => simp [choose]
    | succ i =>
      obtain hkept | ⟨payment, c, before, after, rfl, rfl, -, -, htook⟩ := row_cases fits row free
      · rw [List.take_succ_cons, choose_cons_kept fits outside hkept,
          choose_cons_kept fits outside hkept, List.take_succ_cons, ih]
      · rw [List.take_succ_cons, choose_cons_took fits outside htook,
          choose_cons_took fits outside htook, List.take_succ_cons, ih]

theorem Row.pick_of_kept {row : Row} {free : List Candidate}
    (h : row.choice = none → ∀ c ∈ free, fits row.payment c.invoice = false) :
    row.pick fits outside free = row := by
  obtain ⟨payment, _ | choice⟩ := row
  · have hnone : free.find? (fun c ↦ fits payment c.invoice) = none :=
      List.find?_eq_none.mpr fun c hc ↦ by simp [h rfl c hc]
    simp [pick, hnone]
  · rfl

/-- A row picks among what is free when the rows before it have had their turn. -/
theorem choose_getElem? (rows : List Row) (free : List Candidate) (i : Nat) :
    (choose fits outside rows free).rows[i]? = rows[i]?.map
      (Row.pick fits outside (choose fits outside (rows.take i) free).free) := by
  induction rows generalizing free i with
  | nil => simp [choose]
  | cons row rest ih =>
    obtain hkept | ⟨payment, c, before, after, rfl, rfl, hfit, hbefore, htook⟩ :=
      row_cases fits row free
    · rw [choose_cons_kept fits outside hkept]
      cases i with
      | zero => simp [choose, Row.pick_of_kept fits outside hkept]
      | succ i =>
        rw [List.take_succ_cons, choose_cons_kept fits outside hkept, List.getElem?_cons_succ,
          List.getElem?_cons_succ, ih]
    · rw [choose_cons_took fits outside htook]
      cases i with
      | zero =>
        have hfind : (before ++ c :: after).find? (fun c ↦ fits payment c.invoice) = some c :=
          List.find?_eq_some_iff_append.mpr ⟨hfit, before, after, rfl, by simpa using hbefore⟩
        simp [choose, Row.pick, hfind]
      | succ i =>
        rw [List.take_succ_cons, choose_cons_took fits outside htook, List.getElem?_cons_succ,
          List.getElem?_cons_succ, ih]

theorem Row.pick_eq_some {payment : PaymentRecord} {c : Candidate} {mark : Bool} {row : Row}
    {free : List Candidate} (h : row.pick fits outside free = ⟨payment, some ⟨c, mark⟩⟩) :
    row = ⟨payment, some ⟨c, mark⟩⟩ ∨ row = ⟨payment, none⟩ ∧ mark = outside ∧
      free.find? (fun c ↦ fits payment c.invoice) = some c := by
  obtain ⟨paid, _ | choice⟩ := row
  · obtain ⟨rfl, hchoice⟩ := Row.mk.inj h
    obtain ⟨found, hfound, hmark⟩ := Option.map_eq_some_iff.mp hchoice
    obtain ⟨rfl, rfl⟩ := Choice.mk.inj hmark
    exact .inr ⟨rfl, rfl, hfound⟩
  · exact .inl h

end

/-! ## A pass is greedy -/

theorem mem_taken_iff {rows : List Row} {c : Candidate} :
    c ∈ taken rows ↔ ∃ (i : Nat) (payment : PaymentRecord) (outside : Bool),
      rows[i]? = some (Row.mk payment (some ⟨c, outside⟩)) := by
  rw [taken, List.mem_filterMap]
  constructor
  · intro htaken
    rcases htaken with ⟨⟨payment, choice⟩, hrow, hc⟩
    obtain ⟨⟨_, outside⟩, rfl, rfl⟩ := Option.map_eq_some_iff.mp hc
    obtain ⟨i, hi⟩ := List.mem_iff_getElem?.mp hrow
    exact ⟨i, payment, outside, hi⟩
  · intro htaken
    rcases htaken with ⟨i, payment, outside, hrow⟩
    exact ⟨_, List.mem_of_getElem? hrow, rfl⟩

/-- In a list that is in order the first that fits is the one at the least position. -/
theorem InOrder.exists_find?_iff {free : List Candidate} (hfree : InOrder free)
    (p : Candidate → Bool) (j : Nat) :
    (∃ c, free.find? p = some c ∧ c.position = j) ↔
      IsLeast {k | ∃ c ∈ free, p c = true ∧ c.position = k} j := by
  have hleast {c : Candidate} (hfind : free.find? p = some c) :
      IsLeast {k | ∃ c ∈ free, p c = true ∧ c.position = k} c.position := by
    obtain ⟨hp, before, after, rfl, hbefore⟩ := List.find?_eq_some_iff_append.mp hfind
    refine ⟨⟨c, by simp, hp, rfl⟩, ?_⟩
    rintro k ⟨other, hother, hfits, rfl⟩
    rcases List.mem_append.mp hother with hother | hother
    · have hmiss := hbefore other hother
      rw [hfits] at hmiss
      cases hmiss
    · rcases List.mem_cons.mp hother with rfl | hother
      · exact Nat.le_refl _
      · exact Nat.le_of_lt (hfree.position_lt hother)
  constructor
  · intro hfound
    rcases hfound with ⟨c, hfind, rfl⟩
    exact hleast hfind
  · intro h
    obtain ⟨c, hc, hp, -⟩ := h.1
    obtain ⟨first, hfind⟩ := Option.isSome_iff_exists.mp (List.find?_isSome.mpr ⟨c, hc, hp⟩)
    exact ⟨first, hfind, (hleast hfind).unique h⟩

section

variable {fits : PaymentRecord → InvoiceRecord → Bool} {outside : Bool} {rows : List Row}
  {free : List Candidate}

/-- What is free at the turn of a row: what was free at first, less what has been taken. -/
theorem mem_turn_iff (honce : ((taken rows ++ free).map Candidate.position).Nodup) (i : Nat)
    (c : Candidate) :
    c ∈ (choose fits outside (rows.take i) free).free ↔ c ∈ free ∧
      ∀ earlier < i, ¬ (choose fits outside rows free).Chose outside earlier c.position := by
  have hperm := choose_perm fits outside (rows.take i) free
  have hsublist : (taken (rows.take i) ++ free).Sublist (taken rows ++ free) :=
    ((List.take_sublist i rows).filterMap _).append_right free
  have hnodup := (hperm.map Candidate.position).nodup_iff.mpr
    (honce.sublist (hsublist.map Candidate.position))
  rw [choose_take] at hperm hnodup
  rw [List.map_append, List.nodup_append] at hnodup honce
  constructor
  · intro hc
    refine ⟨(choose_free_sublist fits outside _ _).subset hc, fun earlier hlt hchose ↦ ?_⟩
    obtain ⟨payment, other, hrow, hposition⟩ := hchose
    have hother : other ∈ taken ((choose fits outside rows free).rows.take i) :=
      mem_taken_iff.mpr ⟨earlier, payment, outside, by rwa [List.getElem?_take_of_lt hlt]⟩
    exact hnodup.2.2 _ (List.mem_map_of_mem hother) _ (List.mem_map_of_mem hc) hposition
  · intro hfree
    obtain ⟨hc, hnot⟩ := hfree
    rcases List.mem_append.mp (hperm.mem_iff.mpr (List.mem_append_right _ hc)) with htaken | hfree
    · obtain ⟨earlier, payment, mark, hrow⟩ := mem_taken_iff.mp htaken
      rw [List.getElem?_take] at hrow
      split at hrow
      · next hlt =>
        have hturn := hrow
        rw [choose_getElem?, Option.map_eq_some_iff] at hturn
        obtain ⟨row, hold, hpick⟩ := hturn
        -- The invoice was taken before the pass, and then it was not free, or it is taken in it.
        obtain rfl | ⟨-, rfl, -⟩ := Row.pick_eq_some fits outside hpick
        · have hbefore : c ∈ taken rows := mem_taken_iff.mpr ⟨earlier, payment, mark, hold⟩
          exact absurd rfl
            (honce.2.2 _ (List.mem_map_of_mem hbefore) _ (List.mem_map_of_mem hc))
        · exact absurd ⟨payment, c, hrow, rfl⟩ (hnot earlier hlt)
      · cases hrow
    · exact hfree

/-- In a pass each row without an invoice takes the first that fits and has not been taken. -/
theorem choose_isGreedy (hfree : InOrder free)
    (honce : ((taken rows ++ free).map Candidate.position).Nodup)
    (hnew : ∀ row ∈ rows, ∀ c, row.choice ≠ some ⟨c, outside⟩) :
    IsGreedy (fun i k ↦ ∃ payment c, rows[i]? = some ⟨payment, none⟩ ∧ c ∈ free ∧
        fits payment c.invoice = true ∧ c.position = k)
      ((choose fits outside rows free).Chose outside) := by
  intro i j
  have hpick (payment : PaymentRecord) (c : Candidate) :
      (choose fits outside rows free).rows[i]? = some ⟨payment, some ⟨c, outside⟩⟩ ↔
        rows[i]? = some ⟨payment, none⟩ ∧
          (choose fits outside (rows.take i) free).free.find?
            (fun c ↦ fits payment c.invoice) = some c := by
    rw [choose_getElem?, Option.map_eq_some_iff]
    constructor
    · intro hturn
      obtain ⟨row, hrow, hpick⟩ := hturn
      obtain rfl | ⟨rfl, -, hfind⟩ := Row.pick_eq_some fits outside hpick
      · exact absurd rfl (hnew _ (List.mem_of_getElem? hrow) c)
      · exact ⟨hrow, hfind⟩
    · intro hturn
      obtain ⟨hrow, hfind⟩ := hturn
      exact ⟨_, hrow, by simp [Row.pick, hfind]⟩
  have hinOrder : InOrder (choose fits outside (rows.take i) free).free :=
    hfree.sublist (choose_free_sublist fits outside _ _)
  cases hrow : rows[i]? with
  | none => simp [Sheet.Chose, hpick, hrow, IsLeast]
  | some row =>
    obtain ⟨payment, _ | choice⟩ := row
    · have hsets : {k | ∃ c ∈ (choose fits outside (rows.take i) free).free,
            fits payment c.invoice = true ∧ c.position = k} =
          {k | (∃ payment c, rows[i]? = some ⟨payment, none⟩ ∧ c ∈ free ∧
            fits payment c.invoice = true ∧ c.position = k) ∧
              ∀ earlier < i, ¬ (choose fits outside rows free).Chose outside earlier k} := by
        ext k
        constructor
        · intro hleft
          obtain ⟨c, hc, hfit, rfl⟩ := hleft
          obtain ⟨hmem, hnot⟩ := (mem_turn_iff honce i c).mp hc
          exact ⟨⟨payment, c, hrow, hmem, hfit, rfl⟩, hnot⟩
        · intro hright
          obtain ⟨⟨_, c, hblank, hmem, hfit, rfl⟩, hnot⟩ := hright
          obtain ⟨rfl, -⟩ := Row.mk.inj (Option.some.inj (hrow.symm.trans hblank))
          exact ⟨c, (mem_turn_iff honce i c).mpr ⟨hmem, hnot⟩, hfit, rfl⟩
      rw [← hsets, ← hinOrder.exists_find?_iff]
      simp [Sheet.Chose, hpick, hrow]
    · simp [Sheet.Chose, hpick, hrow, IsLeast]

/-- A pass neither makes nor undoes choices with another mark. -/
theorem choose_chose_of_ne {mark : Bool} (h : mark ≠ outside) (i j : Nat) :
    (choose fits outside rows free).Chose mark i j ↔ Sheet.Chose ⟨rows, free⟩ mark i j := by
  have hrow (payment : PaymentRecord) (c : Candidate) :
      (choose fits outside rows free).rows[i]? = some ⟨payment, some ⟨c, mark⟩⟩ ↔
        rows[i]? = some ⟨payment, some ⟨c, mark⟩⟩ := by
    rw [choose_getElem?, Option.map_eq_some_iff]
    constructor
    · intro hturn
      obtain ⟨row, hrow, hpick⟩ := hturn
      obtain rfl | ⟨-, hmark, -⟩ := Row.pick_eq_some fits outside hpick
      · exact hrow
      · exact absurd hmark h
    · exact fun hrow ↦ ⟨_, hrow, rfl⟩
  simp only [Sheet.Chose, hrow]

end

/-! ## Both passes -/

/-- The amounts that were paid, by position. -/
def paidAmounts (payments : List PaymentRecord) : List Money :=
  (payments.filter (·.isSucceeded)).map PaymentRecord.amount

/-- The amounts that are due, by position. -/
def dueAmounts (invoices : List InvoiceRecord) : List Money :=
  (invoices.filter (·.isOpen)).map InvoiceRecord.due

/-- A payment and an invoice are matched, outside the tolerance or within it. -/
def MatchedAt (tolerance : Nat) (joins : List Join) (outside : Bool) (i j : Nat) : Prop :=
  ∃ join ∈ joins, join.isFar tolerance = outside ∧
    join.paymentPosition = i ∧ join.invoicePosition = j

theorem mem_candidates_iff {invoices : List InvoiceRecord} {c : Candidate} :
    c ∈ candidates invoices ↔ (invoices.filter (·.isOpen))[c.position]? = some c.invoice := by
  refine ⟨mem_candidates, fun h ↦ ?_⟩
  exact List.mem_map.mpr ⟨(c.invoice, c.position), List.mem_zipIdx_iff_getElem?.mpr h, rfl⟩

section

variable {payments : List PaymentRecord} {invoices : List InvoiceRecord} {tolerance : Nat}

theorem fitsAt_iff {fits : Money → Money → Prop} {i j : Nat} :
    FitsAt fits (paidAmounts payments) (dueAmounts invoices) i j ↔
      ∃ payment c, (payments.filter (·.isSucceeded))[i]? = some payment ∧
        c ∈ candidates invoices ∧ fits payment.amount c.invoice.due ∧ c.position = j := by
  simp only [FitsAt, paidAmounts, dueAmounts, List.getElem?_map, Option.map_eq_some_iff]
  constructor
  · intro hfits
    rcases hfits with ⟨_, _, ⟨payment, hpayment, rfl⟩, ⟨invoice, hinvoice, rfl⟩, hfit⟩
    exact ⟨payment, ⟨invoice, j⟩, hpayment, mem_candidates_iff.mpr hinvoice, hfit, rfl⟩
  · intro hfits
    rcases hfits with ⟨payment, c, hpayment, hc, hfit, rfl⟩
    exact ⟨_, _, ⟨payment, hpayment, rfl⟩, ⟨c.invoice, mem_candidates hc, rfl⟩, hfit⟩

theorem blankRows_once : ((taken (blankRows payments) ++ candidates invoices).map
    Candidate.position).Nodup := by
  rw [taken_blankRows, List.nil_append]
  exact (candidates_inOrder invoices).nodup

/-- The first pass is greedy within the tolerance. -/
theorem firstPass_isGreedy :
    IsGreedy (FitsAt (IsWithin tolerance) (paidAmounts payments) (dueAmounts invoices))
      ((firstPass tolerance payments invoices).Chose false) := by
  have hblank : ∀ row ∈ blankRows payments, ∀ c : Candidate, row.choice ≠ some ⟨c, false⟩ := by
    intro row hrow c
    obtain ⟨payment, -, rfl⟩ := List.mem_map.mp hrow
    exact nofun
  have hgreedy : IsGreedy _ ((firstPass tolerance payments invoices).Chose false) :=
    choose_isGreedy (candidates_inOrder invoices) blankRows_once hblank
  refine hgreedy.congr fun i j ↦ ?_
  simp [fitsAt_iff, blankRows, withinTolerance_iff]

theorem firstPass_once :
    ((taken (firstPass tolerance payments invoices).rows ++
      (firstPass tolerance payments invoices).free).map Candidate.position).Nodup := by
  have hperm := choose_perm (withinTolerance tolerance) false (blankRows payments)
    (candidates invoices)
  exact (hperm.map Candidate.position).nodup_iff.mpr blankRows_once

theorem firstPass_choice_ne {row : Row}
    (hrow : row ∈ (firstPass tolerance payments invoices).rows) (c : Candidate) :
    row.choice ≠ some ⟨c, true⟩ := by
  cases firstPass_settled payments invoices hrow [] with
  | unmatched far foreign => simp
  | within fit first => simp
  | outside fallback_on => cases fallback_on

/-- The payments that the first pass leaves without an invoice. -/
theorem firstPass_blank_iff {i : Nat} {payment : PaymentRecord} :
    (firstPass tolerance payments invoices).rows[i]? = some ⟨payment, none⟩ ↔
      (payments.filter (·.isSucceeded))[i]? = some payment ∧
        ∀ k, ¬ (firstPass tolerance payments invoices).Chose false i k := by
  have hpayments : (firstPass tolerance payments invoices).rows.map Row.payment =
      payments.filter (·.isSucceeded) := by
    rw [firstPass, choose_payments _ _ _ (candidates_inOrder invoices), blankRows_payments]
  rw [← hpayments, List.getElem?_map, Option.map_eq_some_iff]
  constructor
  · intro hrow
    refine ⟨⟨_, hrow, rfl⟩, fun k hchose ↦ ?_⟩
    obtain ⟨_, c, hchoice, -⟩ := hchose
    cases hrow.symm.trans hchoice
  · intro hrow
    rcases hrow with ⟨⟨⟨_, _ | ⟨c, mark⟩⟩, hrow, rfl⟩, hnone⟩
    · exact hrow
    · cases mark with
      | true => exact absurd rfl (firstPass_choice_ne (List.mem_of_getElem? hrow) c)
      | false => exact absurd ⟨_, c, hrow, rfl⟩ (hnone c.position)

/-- The invoices that the first pass leaves free. -/
theorem mem_firstPass_free_iff {c : Candidate} :
    c ∈ (firstPass tolerance payments invoices).free ↔ c ∈ candidates invoices ∧
      ∀ other, ¬ (firstPass tolerance payments invoices).Chose false other c.position := by
  have hturn : c ∈ (choose (withinTolerance tolerance) false
      ((blankRows payments).take (blankRows payments).length) (candidates invoices)).free ↔ _ :=
    mem_turn_iff blankRows_once (blankRows payments).length c
  rw [List.take_length] at hturn
  refine hturn.trans (and_congr_right fun _ ↦ ⟨fun hnot other hchose ↦ ?_, fun hnot _ _ ↦ hnot _⟩)
  refine hnot other ?_ hchose
  obtain ⟨payment, _, hrow, -⟩ := hchose
  rw [firstPass, choose_getElem?, Option.map_eq_some_iff] at hrow
  obtain ⟨row, hblank, -⟩ := hrow
  exact (List.getElem?_eq_some_iff.mp hblank).1

/-- The second pass is greedy among what the first has left. -/
theorem secondPass_isGreedy :
    IsGreedy (FallsBackOn ((firstPass tolerance payments invoices).Chose false)
        (paidAmounts payments) (dueAmounts invoices))
      ((secondPass (firstPass tolerance payments invoices)).Chose true) := by
  have hgreedy : IsGreedy _ ((secondPass (firstPass tolerance payments invoices)).Chose true) :=
    choose_isGreedy (firstPass_free_inOrder payments invoices tolerance) firstPass_once
      fun _ hrow c ↦ firstPass_choice_ne hrow c
  refine hgreedy.congr fun i j ↦ ?_
  rw [FallsBackOn, fitsAt_iff]
  constructor
  · intro hleft
    rcases hleft with ⟨payment, c, hrow, hc, hfit, rfl⟩
    obtain ⟨hpayment, hnone⟩ := firstPass_blank_iff.mp hrow
    obtain ⟨hc, hfree⟩ := mem_firstPass_free_iff.mp hc
    exact ⟨⟨payment, c, hpayment, hc, of_decide_eq_true hfit, rfl⟩, hnone, hfree⟩
  · intro hright
    rcases hright with ⟨⟨payment, c, hpayment, hc, hfit, rfl⟩, hnone, hfree⟩
    exact ⟨payment, c, firstPass_blank_iff.mpr ⟨hpayment, hnone⟩,
      mem_firstPass_free_iff.mpr ⟨hc, hfree⟩, decide_eq_true hfit, rfl⟩

end

section

variable {settings : ReconciliationSettings} {payments : List PaymentRecord}
  {invoices : List InvoiceRecord}

/-- The fallback leaves the choices of the first pass as they are. -/
theorem pair_chose_false_iff (i j : Nat) :
    (pair settings payments invoices).Chose false i j ↔
      (firstPass settings.tolerance payments invoices).Chose false i j := by
  unfold pair
  split
  · exact choose_chose_of_ne Bool.false_ne_true i j
  · rfl

theorem matchedAt_joins_iff {outside : Bool} {i j : Nat} :
    MatchedAt settings.tolerance (joins settings payments invoices) outside i j ↔
      (pair settings payments invoices).Chose outside i j := by
  constructor
  · intro hmatched
    rcases hmatched with ⟨join, hjoin, hmark, rfl, rfl⟩
    obtain ⟨mark, hrow, hsettled⟩ := exists_row_of_mem_joins hjoin
    obtain rfl : mark = outside := hsettled.isFar_eq.symm.trans hmark
    exact ⟨join.payment, join.candidate, hrow, rfl⟩
  · intro hchose
    rcases hchose with ⟨payment, c, hrow, rfl⟩
    have hsettled := pair_settled settings payments invoices (List.mem_of_getElem? hrow)
    exact ⟨⟨i, payment, c.position, c.invoice⟩, Sheet.mem_joins.mpr ⟨_, hrow, rfl, rfl⟩,
      hsettled.isFar_eq, rfl, rfl⟩

/-- The joins of a report are in first fit. -/
theorem joins_isFirstFit :
    IsFirstFit settings.tolerance settings.matchOutsideTolerance (paidAmounts payments)
      (dueAmounts invoices) (MatchedAt settings.tolerance (joins settings payments invoices) false)
      (MatchedAt settings.tolerance (joins settings payments invoices) true) := by
  have hnear : MatchedAt settings.tolerance (joins settings payments invoices) false =
      (firstPass settings.tolerance payments invoices).Chose false :=
    funext₂ fun i j ↦ propext (matchedAt_joins_iff.trans (pair_chose_false_iff i j))
  have hfar : MatchedAt settings.tolerance (joins settings payments invoices) true =
      (pair settings payments invoices).Chose true :=
    funext₂ fun _ _ ↦ propext matchedAt_joins_iff
  rw [hnear, hfar]
  refine ⟨firstPass_isGreedy, ?_⟩
  unfold pair
  split
  · next hfallback =>
    exact secondPass_isGreedy.congr fun i j ↦ by rw [hfallback, eq_self, true_and]
  · next hfallback =>
    -- Nothing is matched outside the tolerance, and nothing may be.
    intro i j
    constructor
    · intro hchose
      obtain ⟨payment, c, hrow, -⟩ := hchose
      exact absurd rfl (firstPass_choice_ne (List.mem_of_getElem? hrow) c)
    · intro hleast
      exact absurd hleast.1.1.1 hfallback

end

/-! ## The order of a report -/

/-- The exception of a payment at a position, if there is one. -/
def paymentException? (tolerance : Nat) (joins : List Join) :
    PaymentRecord × Nat → Option ReportException
  | (payment, position) =>
    match joins.find? (·.paymentPosition = position) with
    | none => some (unmatchedPayment payment)
    | some join =>
      if join.isFar tolerance then some (amountMismatch payment join.invoice) else none

/-- A report with the matches in the order of the payments, then the exceptions of payments in the
same order, then those of invoices in theirs. -/
structure Report.IsListedInOrder (tolerance : Nat) (payments : List PaymentRecord)
    (invoices : List InvoiceRecord) (joins : List Join) (report : Report) : Prop where
  paired : report.paired = joins.map Join.entry
  inOrder : joins.Pairwise fun a b ↦ a.paymentPosition < b.paymentPosition
  exceptions : report.exceptions =
    (payments.filter (·.isSucceeded)).zipIdx.filterMap (paymentException? tolerance joins) ++
      (unjoined (joins.map Join.invoicePosition) (invoices.filter (·.isOpen))).map unmatchedInvoice

theorem Sheet.find?_joins {sheet : Sheet} {position : Nat} {row : Row}
    (hrow : sheet.rows[position]? = some row) :
    sheet.joins.find? (·.paymentPosition = position) = row.join? position := by
  cases hfind : sheet.joins.find? (·.paymentPosition = position) with
  | none =>
    cases hc : row.candidate? with
    | none => rw [Row.join?, hc, Option.map_none]
    | some c =>
      have hjoin : ⟨position, row.payment, c.position, c.invoice⟩ ∈ sheet.joins :=
        Sheet.mem_joins.mpr ⟨row, hrow, rfl, hc⟩
      exact absurd (decide_eq_true rfl) (List.find?_eq_none.mp hfind _ hjoin)
  | some join =>
    obtain rfl : join.paymentPosition = position := by simpa using List.find?_some hfind
    obtain ⟨row', hrow', hpayment, hc⟩ := Sheet.mem_joins.mp (List.mem_of_find?_eq_some hfind)
    obtain rfl : row = row' := Option.some.inj (hrow.symm.trans hrow')
    rw [Row.join?, hc, hpayment]
    rfl

/-- The exception of a row is that of its payment. -/
theorem paymentException?_eq {settings : ReconciliationSettings} {payments : List PaymentRecord}
    {invoices : List InvoiceRecord} {position : Nat} {row : Row}
    (hrow : (pair settings payments invoices).rows[position]? = some row) :
    paymentException? settings.tolerance (joins settings payments invoices)
      (row.payment, position) = row.exception? := by
  have hsettled := pair_settled settings payments invoices (List.mem_of_getElem? hrow)
  rw [paymentException?, joins, Sheet.find?_joins hrow]
  obtain ⟨payment, _ | ⟨c, outside⟩⟩ := row
  · rfl
  · simp [Row.join?, Row.candidate?, Row.exception?, hsettled.isFar_eq]

section

variable (settings : ReconciliationSettings) (payments : List PaymentRecord)
  (invoices : List InvoiceRecord)

theorem filterMap_paymentException? :
    (payments.filter (·.isSucceeded)).zipIdx.filterMap
        (paymentException? settings.tolerance (joins settings payments invoices)) =
      (pair settings payments invoices).rows.filterMap Row.exception? := by
  calc
    _ = ((pair settings payments invoices).rows.map Row.payment).zipIdx.filterMap
        (paymentException? settings.tolerance (joins settings payments invoices)) := by
      rw [pair_payments]
    _ = (pair settings payments invoices).rows.zipIdx.filterMap fun entry ↦
        paymentException? settings.tolerance (joins settings payments invoices)
          (entry.1.payment, entry.2) := by
      rw [List.zipIdx_map, List.filterMap_map]
      rfl
    _ = (pair settings payments invoices).rows.zipIdx.filterMap (Row.exception? ∘ Prod.fst) :=
      List.filterMap_congr fun _ hrow ↦
        paymentException?_eq (List.mem_zipIdx_iff_getElem?.mp hrow)
    _ = _ := by
      rw [← List.filterMap_map, List.zipIdx_map_fst]

theorem reconcile_isListedInOrder :
    (reconcile settings payments invoices).IsListedInOrder settings.tolerance payments invoices
      (joins settings payments invoices) where
  paired := (reconcile_isReportOf settings payments invoices).paired
  inOrder := List.pairwise_map.mp
    ((List.pairwise_lt_range' 1).sublist Sheet.joins_paymentPosition_sublist)
  exceptions := by
    rw [filterMap_paymentException?, unjoined_invoices, List.map_map]
    rfl

/-- **First fit.**  The joins of a report are the one assignment of payments to invoices that is in
first fit: within the tolerance each payment has the first invoice that no earlier one has, and with
the fallback each of the others has the first one of its currency that is left over.  The report
lists matches and exceptions in the order of the records. -/
theorem reconcile_is_first_fit :
    IsPairing payments invoices (joins settings payments invoices) ∧
      (∀ near far : Nat → Nat → Prop,
        IsFirstFit settings.tolerance settings.matchOutsideTolerance (paidAmounts payments)
          (dueAmounts invoices) near far ↔
        near = MatchedAt settings.tolerance (joins settings payments invoices) false ∧
          far = MatchedAt settings.tolerance (joins settings payments invoices) true) ∧
      (reconcile settings payments invoices).IsListedInOrder settings.tolerance payments invoices
        (joins settings payments invoices) := by
  refine ⟨joins_isPairing settings payments invoices, fun near far ↦ ⟨fun h ↦ ?_, ?_⟩,
    reconcile_isListedInOrder settings payments invoices⟩
  · exact h.unique joins_isFirstFit
  · rintro ⟨rfl, rfl⟩
    exact joins_isFirstFit

end

end MobileMoney.Reconciliation
