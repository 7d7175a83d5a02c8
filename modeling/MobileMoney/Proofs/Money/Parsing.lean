import MobileMoney.Proofs.Decimal.Reading
import MobileMoney.Proofs.Decimal.Scaling
import MobileMoney.Proofs.Money.Canonical

/-!
# Amounts from decimal texts

The decimal text of a number of major units is read as money exactly where it denotes a whole number
of minor units of 64 bits in a currency.  Nothing is rounded, whichever notation a number is in.
-/

namespace MobileMoney.Money

/-- The minor units that are read from a text. -/
theorem read?_bind_eq_some_iff {cs : List Char} {places minor : Nat} :
    (Decimal.Exact.read? cs).bind (·.timesPowerOfTen? places) = some minor ↔
      ∃ v, Decimal.IsDecimal Decimal.IsReadSignificand cs v ∧ v * 10 ^ places = minor ∧
        minor < UInt64.size := by
  simp only [← Decimal.Exact.exists_read?_iff, Option.bind_eq_some_iff,
    Decimal.Exact.timesPowerOfTen?_eq_some_iff]
  constructor
  · rintro ⟨x, hread, hsize, hminor⟩
    exact ⟨_, ⟨x, hread, rfl⟩, hminor, hsize⟩
  · rintro ⟨_, ⟨x, hread, rfl⟩, hminor, hsize⟩
    exact ⟨x, hread, hsize, hminor⟩

theorem ofMajorText_eq_ok_iff {amount currency : String} {money : Money} :
    ofMajorText amount currency = .ok money ↔
      money.currency.code = Currency.normalize currency ∧
      ∃ v, Decimal.IsDecimal Decimal.IsReadSignificand (Text.trim amount).toList v ∧
        v * 10 ^ Currency.minorDigits (Currency.normalize currency) = money.minor := by
  constructor
  · intro h
    unfold ofMajorText at h
    dsimp only at h
    split at h
    · next minor hminor =>
      obtain ⟨rfl, hcode⟩ := ofMinor_eq_ok_iff.mp h
      obtain ⟨v, hdecimal, hvalue, -⟩ := read?_bind_eq_some_iff.mp hminor
      exact ⟨hcode, v, hdecimal, hvalue⟩
    · cases h
  · rintro ⟨hcode, v, hdecimal, hvalue⟩
    have hminor := read?_bind_eq_some_iff.mpr ⟨v, hdecimal, hvalue, money.minor_lt⟩
    simp only [ofMajorText, hminor]
    exact ofMinor_eq_ok_iff.mpr ⟨rfl, hcode⟩

/-- A text that denotes a number of which a machine cannot compute the minor units. -/
def IsLostText (capacity : Nat) (amount : String) : Prop :=
  ∃ x, Decimal.Exact.read? (Text.trim amount).toList = some x ∧ x.IsLost capacity

theorem ofMajorText?_eq_none_iff {capacity : Nat} {amount currency : String} :
    ofMajorText? capacity amount currency = none ↔ IsLostText capacity amount := by
  unfold ofMajorText? IsLostText
  cases hread : Decimal.Exact.read? (Text.trim amount).toList with
  | none => simp
  | some x => simp [Decimal.Exact.timesPowerOfTenWithin?_eq_none_iff]

/-- A machine reads what is read without a limit, or is aborted. -/
theorem ofMajorText?_eq_some {capacity : Nat} {amount currency : String}
    {result : Except MoneyError Money}
    (h : ofMajorText? capacity amount currency = some result) :
    result = ofMajorText amount currency := by
  unfold ofMajorText? at h
  unfold ofMajorText
  cases hread : Decimal.Exact.read? (Text.trim amount).toList with
  | none =>
    rw [hread] at h
    exact (Option.some.inj h).symm
  | some x =>
    rw [hread] at h
    obtain ⟨found, hfound, rfl⟩ := Option.map_eq_some_iff.mp h
    rw [Decimal.Exact.timesPowerOfTenWithin?_eq_some hfound]
    rfl

/-- A text denotes a number of major units that is worth a number of minor units of 64 bits in a
currency. -/
structure IsWorth (significand : List Char → Int → Nat → Prop) (amount currency : String) (v : ℚ)
    (minor : Nat) : Prop where
  decimal : Decimal.IsDecimal significand (Text.trim amount).toList v
  nonneg : 0 ≤ v
  minor_eq : v * 10 ^ Currency.minorDigits (Currency.normalize currency) = minor
  minor_lt : minor < 2 ^ 64
  code : IsCurrencyCode (Currency.normalize currency)

/-- **Exact amounts.** A text is read as money exactly where it denotes a number that is worth a
number of minor units in a currency, and that is the amount that is read. -/
theorem ofMajorText_isExact (amount currency : String) :
    ((∃ money, ofMajorText amount currency = .ok money) ↔
      ∃ v minor, IsWorth Decimal.IsReadSignificand amount currency v minor) ∧
    ∀ money v minor, ofMajorText amount currency = .ok money →
      IsWorth Decimal.IsReadSignificand amount currency v minor →
      money.minor = minor ∧ money.currency.code = Currency.normalize currency := by
  have hread {v : ℚ} {minor : Nat}
      (h : IsWorth Decimal.IsReadSignificand amount currency v minor) :
      ofMajorText amount currency = .ok ⟨minor, ⟨_, h.code⟩, h.minor_lt⟩ :=
    ofMajorText_eq_ok_iff.mpr ⟨rfl, v, h.decimal, h.minor_eq⟩
  refine ⟨⟨?_, ?_⟩, ?_⟩
  · rintro ⟨money, hmoney⟩
    obtain ⟨hcode, v, hdecimal, hminor⟩ := ofMajorText_eq_ok_iff.mp hmoney
    have hpow : (0 : ℚ) < 10 ^ Currency.minorDigits (Currency.normalize currency) :=
      pow_pos (by decide) _
    have hnonneg : 0 ≤ v := by
      refine nonneg_of_mul_nonneg_left ?_ hpow
      rw [hminor]
      exact Nat.cast_nonneg _
    exact ⟨v, money.minor, hdecimal, hnonneg, hminor, money.minor_lt, hcode ▸ money.currency.isCode⟩
  · rintro ⟨v, minor, h⟩
    exact ⟨_, hread h⟩
  · intro money v minor hmoney h
    rw [hread h] at hmoney
    rw [← Except.ok.inj hmoney]
    exact ⟨rfl, rfl⟩

/-- Blanks, underscores, an exponent and zeros beyond the minor unit. -/
example : (ofMajorText " +1_2.5000e1 " "kes").toOption.map minor = some 12500 := by
  decide

/-- A sign behind the point is not in the grammar of decimal texts, but `.+5` is read as `0.05`. -/
theorem not_isExact_of_sign_after_point :
    ¬ ((∃ money, ofMajorText ".+5" "KES" = .ok money) ↔
      ∃ v minor, IsWorth Decimal.IsSignificand ".+5" "KES" v minor) := by
  intro h
  have hok : ofMajorText ".+5" "KES" = .ok ⟨5, ⟨"KES", by decide⟩, by decide⟩ := by decide
  obtain ⟨v, minor, hworth⟩ := h.mp ⟨_, hok⟩
  have hdecimal : Decimal.IsDecimal Decimal.IsSignificand ['.', '+', '5'] v := hworth.decimal
  obtain ⟨number, places, hsignificand⟩ :=
    hdecimal.exists_significand (by decide) (by decide)
  obtain ⟨sign, rest, hcs, hplus⟩ := hsignificand.exists_sign
  cases sign with
  | unsigned =>
    rw [← show ['.', '+', '5'] = rest from hcs] at hplus
    exact hplus (by decide)
  | plus => exact absurd (List.cons.inj hcs).1 (by decide)
  | minus => exact absurd (List.cons.inj hcs).1 (by decide)

end MobileMoney.Money
