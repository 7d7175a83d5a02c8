import Mathlib.Data.List.Induction
import Mathlib.Data.List.Perm.Basic
import MobileMoney.Proofs.Reconciliation.Conservation

/-!
# Totals

The codes of a table of totals grow, so each is there once and adding to one of them leaves the
others as they are.  The table of some matches has the sum of each currency as far as it fits 64
bits, so the total of a currency depends on the matches in it only.  The order in which amounts are
added makes no difference.  Where additions are checked, there is a table exactly if every sum fits.
-/

namespace MobileMoney.Reconciliation

theorem total_of_unmatched {currency : Currency} {found : List Match}
    (h : ¬ ∃ entry ∈ found, entry.amount.currency = currency) :
    total currency (found.map Match.amount) = 0 := by
  have hnone : (found.map Match.amount).filter (·.currency = currency) = [] := by
    rw [List.filter_eq_nil_iff, List.forall_mem_map]
    intro entry hentry
    rw [decide_eq_true_iff]
    exact fun heq ↦ h ⟨entry, hentry, heq⟩
  rw [total, hnone]
  rfl

namespace Totals

def IsSorted (totals : Totals) : Prop :=
  totals.Pairwise fun a b ↦ a.1 < b.1

variable {code other : String} {totals : Totals}

theorem lookup_cons_eq (head : String × Nat) (rest : Totals) :
    List.lookup code (head :: rest) = if code = head.1 then some head.2 else rest.lookup code := by
  obtain ⟨first, total⟩ := head
  rw [List.lookup_cons]
  by_cases h : code = first
  · simp [h]
  · simp [h, beq_false_of_ne h]

theorem lookup_of_lt (h : ∀ entry ∈ totals, code < entry.1) : totals.lookup code = none := by
  rw [List.lookup_eq_none_iff]
  intro entry hentry
  have hne : code ≠ entry.1 := fun heq ↦ String.lt_irrefl code (heq ▸ h entry hentry)
  exact bne_iff_ne.mpr hne

/-- Every code of a table is an old one or the one that has been added to. -/
theorem mem_add {entry : String × Nat} {amount : Nat} (h : entry ∈ add code amount totals) :
    entry.1 = code ∨ ∃ old ∈ totals, entry.1 = old.1 := by
  induction totals with
  | nil =>
    rw [add, List.mem_singleton] at h
    exact .inl (congrArg Prod.fst h)
  | cons head rest ih =>
    rw [add] at h
    split at h
    · obtain rfl | hrest := List.mem_cons.mp h
      · exact .inr ⟨head, List.mem_cons_self, rfl⟩
      · exact .inr ⟨entry, List.mem_cons_of_mem _ hrest, rfl⟩
    · split at h
      · obtain rfl | hold := List.mem_cons.mp h
        · exact .inl rfl
        · exact .inr ⟨entry, hold, rfl⟩
      · obtain rfl | hrest := List.mem_cons.mp h
        · exact .inr ⟨_, List.mem_cons_self, rfl⟩
        · obtain hcode | ⟨old, hold, hentry⟩ := ih hrest
          · exact .inl hcode
          · exact .inr ⟨old, List.mem_cons_of_mem _ hold, hentry⟩

theorem isSorted_add (h : IsSorted totals) (amount : Nat) : IsSorted (add code amount totals) := by
  induction totals with
  | nil => exact List.pairwise_singleton _ _
  | cons head rest ih =>
    obtain ⟨hhead, hrest⟩ := List.pairwise_cons.mp h
    rw [add]
    split
    · exact List.pairwise_cons.mpr ⟨hhead, hrest⟩
    · next hne =>
      split
      · next hlt =>
        refine List.pairwise_cons.mpr ⟨?_, h⟩
        rw [List.forall_mem_cons]
        exact ⟨hlt, fun entry hentry ↦ String.lt_trans hlt (hhead entry hentry)⟩
      · next hlt =>
        refine List.pairwise_cons.mpr ⟨fun entry hentry ↦ ?_, ih hrest⟩
        obtain hcode | ⟨old, hold, hentry⟩ := mem_add hentry
        · rw [hcode]
          exact Std.lt_of_le_of_ne (String.not_lt.mp hlt) (Ne.symm hne)
        · rw [hentry]
          exact hhead old hold

theorem lookup_add_self (h : IsSorted totals) (amount : Nat) :
    (add code amount totals).lookup code =
      some (((totals.lookup code).map fun total ↦ (total + amount) % modulus).getD amount) := by
  induction totals with
  | nil => simp [add]
  | cons head rest ih =>
    obtain ⟨hhead, hrest⟩ := List.pairwise_cons.mp h
    rw [add]
    split
    · next heq => simp only [lookup_cons_eq, heq, if_true, Option.map_some, Option.getD_some]
    · next hne =>
      split
      · next hlt =>
        have hnone : List.lookup code (head :: rest) = none := by
          apply lookup_of_lt
          rw [List.forall_mem_cons]
          exact ⟨hlt, fun entry hentry ↦ String.lt_trans hlt (hhead entry hentry)⟩
        rw [List.lookup_cons_self, hnone]
        rfl
      · simp only [lookup_cons_eq, hne, if_false, ih hrest]

theorem lookup_add_of_ne (h : other ≠ code) (amount : Nat) :
    (add code amount totals).lookup other = totals.lookup other := by
  induction totals with
  | nil => simp [add, lookup_cons_eq, h]
  | cons head rest ih =>
    rw [add]
    split
    · next heq => simp only [lookup_cons_eq, ← heq, h, if_false]
    · split
      · simp only [lookup_cons_eq, h, if_false]
      · simp only [lookup_cons_eq, ih]

/-! ## The table of some matches -/

section

variable (found : List Match) (entry : Match)

theorem ofMatches_concat :
    ofMatches (found ++ [entry]) =
      add entry.amount.currency.code entry.amount.minor (ofMatches found) := by
  rw [ofMatches, List.foldl_concat]
  rfl

theorem isSorted_ofMatches : (ofMatches found).IsSorted := by
  induction found using List.reverseRecOn with
  | nil => exact List.Pairwise.nil
  | append_singleton found entry ih =>
    rw [ofMatches_concat]
    exact isSorted_add ih _

theorem exists_of_mem_ofMatches {cell : String × Nat} (h : cell ∈ ofMatches found) :
    ∃ entry ∈ found, entry.amount.currency.code = cell.1 := by
  induction found using List.reverseRecOn generalizing cell with
  | nil => cases h
  | append_singleton found entry ih =>
    rw [ofMatches_concat] at h
    rcases mem_add h with hcode | ⟨old, hold, hcode⟩
    · exact ⟨entry, by simp, hcode.symm⟩
    · obtain ⟨earlier, hearlier, hold⟩ := ih hold
      exact ⟨earlier, List.mem_append_left _ hearlier, hold.trans hcode.symm⟩

/-- A currency of the matches has their sum, as far as it fits, and any other has no entry. -/
theorem lookup_ofMatches_eq (currency : Currency) :
    (ofMatches found).lookup currency.code =
      if ∃ entry ∈ found, entry.amount.currency = currency then
        some (total currency (found.map Match.amount) % modulus)
      else none := by
  induction found using List.reverseRecOn with
  | nil => simp [ofMatches]
  | append_singleton found entry ih =>
    rw [ofMatches_concat, List.map_append, List.map_singleton, total_concat]
    by_cases hcurrency : entry.amount.currency = currency
    · have hsome : ∃ other ∈ found ++ [entry], other.amount.currency = currency :=
        ⟨entry, by simp, hcurrency⟩
      have hsmall : entry.amount.minor % modulus = entry.amount.minor :=
        Nat.mod_eq_of_lt entry.amount.minor_lt
      rw [hcurrency, lookup_add_self (isSorted_ofMatches found), ih, if_pos hsome, if_pos rfl]
      by_cases hearlier : ∃ other ∈ found, other.amount.currency = currency
      · rw [if_pos hearlier, Option.map_some, Option.getD_some, Nat.mod_add_mod]
      · rw [if_neg hearlier, total_of_unmatched hearlier, Nat.zero_add, hsmall]
        rfl
    · have hcode : currency.code ≠ entry.amount.currency.code := fun heq ↦
        hcurrency ((Currency.mk.injEq ..).mpr heq.symm)
      rw [lookup_add_of_ne hcode, ih, if_neg hcurrency]
      simp [hcurrency, or_and_right, exists_or]

end

/-- The total of a currency is that of its own matches. -/
theorem lookup_ofMatches (currency : Currency) (found : List Match) :
    (ofMatches found).lookup currency.code =
      (ofMatches (found.filter (·.amount.currency = currency))).lookup currency.code := by
  have hcurrencies : (∃ entry ∈ found.filter (·.amount.currency = currency),
      entry.amount.currency = currency) ↔ ∃ entry ∈ found, entry.amount.currency = currency := by
    simp
  have htotal : total currency ((found.filter (·.amount.currency = currency)).map Match.amount) =
      total currency (found.map Match.amount) := by
    simp [total, List.filter_map, Function.comp_def]
  simp only [lookup_ofMatches_eq, hcurrencies, htotal]

/-! ## Checked additions -/

theorem ofMatches?_concat (found : List Match) (entry : Match) :
    ofMatches? (found ++ [entry]) =
      (ofMatches? found).bind (add? entry.amount.currency.code entry.amount.minor) := by
  rw [ofMatches?, List.foldlM_append]
  simp only [List.foldlM_cons, List.foldlM_nil, bind_pure]
  rfl

/-- The old total of a currency is what has been matched in it, as long as that fits. -/
theorem lookup_ofMatches_getD {found : List Match} {currency : Currency}
    (h : total currency (found.map Match.amount) < modulus) :
    ((ofMatches found).lookup currency.code).getD 0 = total currency (found.map Match.amount) := by
  rw [lookup_ofMatches_eq]
  split
  · rw [Option.getD_some, Nat.mod_eq_of_lt h]
  · next hunmatched => rw [Option.getD_none, total_of_unmatched hunmatched]

theorem ofMatches?_eq_some_iff {found : List Match} :
    ofMatches? found = some totals ↔
      ofMatches found = totals ∧ ∀ currency, total currency (found.map Match.amount) < modulus := by
  induction found using List.reverseRecOn generalizing totals with
  | nil =>
    refine Option.some_inj.trans (iff_self_and.mpr fun _ currency ↦ ?_)
    exact (by decide : 0 < modulus)
  | append_singleton found entry ih =>
    simp only [ofMatches?_concat, ofMatches_concat, Option.bind_eq_some_iff, ih, List.map_append,
      List.map_singleton, total_concat]
    constructor
    · rintro ⟨_, ⟨rfl, hfits⟩, hadd⟩
      unfold add? at hadd
      rw [lookup_ofMatches_getD (hfits _)] at hadd
      split at hadd
      · next hsum =>
        refine ⟨Option.some.inj hadd, fun currency ↦ ?_⟩
        have hcurrency := hfits currency
        split
        · next heq => exact heq ▸ hsum
        · exact hcurrency
      · cases hadd
    · rintro ⟨rfl, hfits⟩
      have hfound : ∀ currency, total currency (found.map Match.amount) < modulus :=
        fun currency ↦ Nat.lt_of_le_of_lt (Nat.le_add_right _ _) (hfits currency)
      have hsum := hfits entry.amount.currency
      rw [if_pos rfl] at hsum
      refine ⟨_, ⟨rfl, hfound⟩, ?_⟩
      rw [add?, lookup_ofMatches_getD (hfound _), if_pos hsum]

/-! ## The order of additions -/

theorem add_self (total : Nat) (rest : Totals) (amount : Nat) :
    add code amount ((code, total) :: rest) = (code, (total + amount) % modulus) :: rest := by
  rw [add, if_pos rfl]

theorem add_of_lt (h : code < other) (total : Nat) (rest : Totals) (amount : Nat) :
    add code amount ((other, total) :: rest) = (code, amount) :: (other, total) :: rest := by
  rw [add, if_neg (String.ne_of_lt h), if_pos h]

theorem add_of_gt (h : other < code) (total : Nat) (rest : Totals) (amount : Nat) :
    add code amount ((other, total) :: rest) = (other, total) :: add code amount rest := by
  rw [add, if_neg (String.ne_of_lt h).symm, if_neg (String.lt_asymm h)]

theorem code_trichotomy (code other : String) : code = other ∨ code < other ∨ other < code := by
  by_cases heq : code = other
  · exact .inl heq
  · by_cases hlt : code < other
    · exact .inr (.inl hlt)
    · exact .inr (.inr (Std.lt_of_le_of_ne (String.not_lt.mp hlt) (Ne.symm heq)))

theorem add_add_self (amount more : Nat) (totals : Totals) :
    add code amount (add code more totals) = add code more (add code amount totals) := by
  induction totals with
  | nil => rw [add, add, add_self, add_self, Nat.add_comm]
  | cons head rest ih =>
    obtain ⟨first, total⟩ := head
    obtain rfl | hcode | hcode := code_trichotomy code first
    · rw [add_self, add_self, add_self, add_self, Nat.mod_add_mod, Nat.mod_add_mod,
        Nat.add_right_comm]
    · rw [add_of_lt hcode, add_of_lt hcode, add_self, add_self, Nat.add_comm]
    · rw [add_of_gt hcode, add_of_gt hcode, add_of_gt hcode, add_of_gt hcode, ih]

theorem add_add_of_lt (h : code < other) (amount more : Nat) (totals : Totals) :
    add code amount (add other more totals) = add other more (add code amount totals) := by
  induction totals with
  | nil => rw [add, add_of_lt h, add, add_of_gt h, add]
  | cons head rest ih =>
    obtain ⟨first, total⟩ := head
    obtain rfl | hcode | hcode := code_trichotomy code first
    · rw [add_of_gt h, add_self, add_self, add_of_gt h]
    -- The smaller code goes before the first entry, the greater one anywhere after it.
    · obtain rfl | hother | hother := code_trichotomy other first
      · rw [add_self, add_of_lt h, add_of_lt hcode, add_of_gt h, add_self]
      · rw [add_of_lt hother, add_of_lt h, add_of_lt hcode, add_of_gt h, add_of_lt hother]
      · rw [add_of_gt hother, add_of_lt hcode, add_of_lt hcode, add_of_gt h, add_of_gt hother]
    · have hother : first < other := String.lt_trans hcode h
      rw [add_of_gt hother, add_of_gt hcode, add_of_gt hcode, add_of_gt hother, ih]

theorem add_add_comm (code other : String) (amount more : Nat) (totals : Totals) :
    add code amount (add other more totals) = add other more (add code amount totals) := by
  obtain rfl | h | h := code_trichotomy code other
  · exact add_add_self amount more totals
  · exact add_add_of_lt h amount more totals
  · exact (add_add_of_lt h more amount totals).symm

/-- The table of some matches depends on their amounts only, in whatever order. -/
theorem ofMatches_perm {found found' : List Match}
    (h : (found.map Match.amount).Perm (found'.map Match.amount)) :
    ofMatches found = ofMatches found' := by
  have hfold (found : List Match) : ofMatches found = (found.map Match.amount).foldl
      (fun totals amount ↦ add amount.currency.code amount.minor totals) [] := by
    rw [List.foldl_map]
    rfl
  rw [hfold, hfold]
  exact h.foldl_eq' (fun _ _ _ _ _ ↦ add_add_comm ..) []

end Totals

end MobileMoney.Reconciliation
