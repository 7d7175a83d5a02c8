import MobileMoney.Money.Basic
import MobileMoney.Proofs.Text.Letters

/-!
# Canonical currencies

A currency code is its own normal form, so an amount that is rebuilt from the code of a currency
stays in that currency and is never refused.
-/

namespace MobileMoney

/-! ## Capital letters -/

theorem Text.upperChar_of_isUpper {c : Char} (h : c.isUpper = true) : upperChar c = [c] := by
  have hrange := toNat_of_isUpper h
  have hascii : c.toNat < 128 := by omega
  have hcapital : ¬ ('a'.val ≤ c.val ∧ c.val ≤ 'z'.val) := by
    intro hsmall
    have hlow : 97 ≤ c.toNat := UInt32.le_iff_toNat_le.mp hsmall.1
    omega
  have hsame : c.toUpper = c := dif_neg hcapital
  rw [upperChar, if_pos hascii, hsame]

/-! ## Codes -/

theorem IsCurrencyCode.isUpper {code : String} (h : IsCurrencyCode code) {c : Char}
    (hc : c ∈ code.toList) : c.isUpper = true :=
  List.all_eq_true.mp h.2 c hc

theorem Currency.normalize_of_isCurrencyCode {code : String} (h : IsCurrencyCode code) :
    normalize code = code := by
  have htrim : Text.trim code = code :=
    Text.trim_eq_self fun c hc ↦ Text.isBlank_of_isUpper (h.isUpper hc)
  have hupper : code.toList.flatMap Text.upperChar = code.toList.flatMap fun c ↦ [c] := by
    rw [List.flatMap_def, List.flatMap_def]
    exact congrArg List.flatten
      (List.map_congr_left fun c hc ↦ Text.upperChar_of_isUpper (h.isUpper hc))
  rw [normalize, htrim, Text.upper, hupper, List.flatMap_singleton', String.ofList_toList]

theorem Currency.ofText?_eq_some_iff {text : String} {currency : Currency} :
    ofText? text = some currency ↔ currency.code = normalize text := by
  rw [ofText?, Option.dite_none_right_eq_some]
  constructor
  · rintro ⟨_, hcurrency⟩
    rw [← Option.some.inj hcurrency]
  · intro hcode
    simp only [← hcode]
    exact ⟨currency.isCode, trivial⟩

theorem Money.ofMinor_eq_ok_iff {minor : Nat} {currency : String} {money : Money} :
    ofMinor minor currency = .ok money ↔
      money.minor = minor ∧ money.currency.code = Currency.normalize currency := by
  rw [← Currency.ofText?_eq_some_iff]
  unfold ofMinor
  split
  · next hnone => simp [hnone]
  · next found hfound =>
    rw [hfound]
    split
    · constructor
      · rintro ⟨⟩
        exact ⟨rfl, rfl⟩
      · rintro ⟨rfl, ⟨⟩⟩
        rfl
    · next hlarge =>
      refine iff_of_false (by simp) fun h ↦ hlarge ?_
      rw [← h.1]
      exact money.minor_lt

/-- An amount that fits 64 bits can be rebuilt in the currency of any other amount. -/
theorem Money.ofMinor_code (money : Money) {minor : Nat} (h : minor < UInt64.size) :
    ofMinor minor money.currency.code = .ok (money.withMinor minor h) :=
  ofMinor_eq_ok_iff.mpr ⟨rfl, (Currency.normalize_of_isCurrencyCode money.currency.isCode).symm⟩

end MobileMoney
