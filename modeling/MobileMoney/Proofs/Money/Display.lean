import MobileMoney.Proofs.Decimal.Whole
import MobileMoney.Proofs.Money.Parsing

/-!
# Amounts read back

The display form of an amount and its number of major units lose nothing: each is read back as the
same amount of money.
-/

namespace MobileMoney.Money

/-! ## Display form -/

/-- The part of a display form in front of the blank. -/
def numberPart (text : String) : String :=
  String.ofList (text.toList.takeWhile (· ≠ ' '))

theorem factor_pos (money : Money) : 0 < money.factor :=
  Nat.pow_pos (by decide)

theorem isBlank_of_mem_writeNumber {money : Money} {c : Char} (h : c ∈ money.writeNumber) :
    Text.isBlank c = false := by
  unfold writeNumber at h
  dsimp only at h
  split at h
  · exact Text.isBlank_of_isDigit (Decimal.isDigit_of_mem_digits h)
  · rw [List.mem_append, List.mem_cons] at h
    obtain hwhole | rfl | hfraction := h
    · exact Text.isBlank_of_isDigit (Decimal.isDigit_of_mem_digits hwhole)
    · decide
    · exact Text.isBlank_of_isDigit (Decimal.isDigit_of_mem_padded hfraction)

/-- The number of a display form denotes the minor units, divided as often as the currency has
decimal places. -/
theorem isDecimal_writeNumber (money : Money) :
    Decimal.IsDecimal Decimal.IsReadSignificand money.writeNumber
      (money.minor / 10 ^ Currency.minorDigits money.currency.code) := by
  unfold writeNumber
  dsimp only
  split
  · next hnone =>
    rw [hnone, pow_zero, div_one]
    exact Decimal.IsWhole.plain.isDecimal
  · next hplaces =>
    have hfraction : money.minor % money.factor <
        Nat.pow 10 (Currency.minorDigits money.currency.code) := Nat.mod_lt _ money.factor_pos
    have hlength := Decimal.length_padded (Nat.pos_of_ne_zero hplaces) hfraction
    have hfew : Currency.minorDigits money.currency.code < 2 ^ 63 := by
      unfold Currency.minorDigits
      split <;> decide
    have hpoint := Decimal.isDecimal_of_point (Decimal.digits_ne_nil (money.minor / money.factor))
      (fun _ ↦ Decimal.isDigit_of_mem_digits) (fun _ ↦ Decimal.isDigit_of_mem_padded)
      (hlength.symm ▸ hfew)
    have hminor : 10 ^ Currency.minorDigits money.currency.code * (money.minor / money.factor) +
        money.minor % money.factor = money.minor := Nat.div_add_mod _ _
    rwa [Decimal.valueOf_append, Decimal.valueOf_digits, Decimal.valueOf_padded, hlength, hminor]
      at hpoint

theorem numberPart_display (money : Money) :
    numberPart money.display = String.ofList money.writeNumber := by
  have hnumber : ∀ c ∈ money.writeNumber, decide (c ≠ ' ') = true := by
    intro c hc
    apply decide_eq_true
    rintro rfl
    exact absurd (isBlank_of_mem_writeNumber hc) (by decide)
  rw [numberPart, display, String.toList_ofList, List.takeWhile_append_of_pos hnumber]
  simp

theorem ofMajorText_writeNumber (money : Money) :
    ofMajorText (String.ofList money.writeNumber) money.currency.code = .ok money := by
  have htrim : Text.trim (String.ofList money.writeNumber) = String.ofList money.writeNumber := by
    apply Text.trim_eq_self
    intro c hc
    rw [String.toList_ofList] at hc
    exact isBlank_of_mem_writeNumber hc
  rw [ofMajorText_eq_ok_iff, Currency.normalize_of_isCurrencyCode money.currency.isCode, htrim,
    String.toList_ofList]
  exact ⟨rfl, _, money.isDecimal_writeNumber,
    div_mul_cancel₀ _ (pow_ne_zero _ (by decide))⟩

/-- The number and the currency of an amount can be told apart in its display form. -/
theorem display_injective : Function.Injective display := by
  intro a b h
  have hnumber : a.writeNumber = b.writeNumber := by
    have hpart := congrArg numberPart h
    rw [numberPart_display, numberPart_display] at hpart
    exact String.ofList_injective hpart
  have hcode : a.currency.code = b.currency.code := by
    have htext := String.ofList_injective h
    rw [hnumber] at htext
    exact String.toList_injective (List.cons.inj (List.append_cancel_left htext)).2
  have ha := a.ofMajorText_writeNumber
  rw [hnumber, hcode, b.ofMajorText_writeNumber] at ha
  exact (Except.ok.inj ha).symm

/-! ## Major units -/

theorem ofMajor_eq_ok_iff {amount : Nat} {currency : String} {money : Money} :
    ofMajor amount currency = .ok money ↔
      money.minor = amount * Currency.factor (Currency.normalize currency) ∧
        money.currency.code = Currency.normalize currency := by
  unfold ofMajor
  dsimp only
  split
  · exact ofMinor_eq_ok_iff
  · next hlarge =>
    refine iff_of_false (by simp) fun h ↦ hlarge ?_
    rw [← h.1]
    exact money.minor_lt

theorem toMajor_eq_ok_iff {money : Money} {amount : Nat} :
    money.toMajor = .ok amount ↔ money.minor = amount * money.factor := by
  unfold toMajor
  split
  · next hwhole =>
    have hdvd : money.factor ∣ money.minor := Nat.dvd_of_mod_eq_zero hwhole
    rw [Except.ok.injEq, Nat.div_eq_iff_eq_mul_left money.factor_pos hdvd]
  · next hfraction =>
    refine iff_of_false (by simp) fun h ↦ hfraction ?_
    rw [h, Nat.mul_mod_left]

theorem ofMinor_ne_invalidAmount {minor : Nat} (h : minor < UInt64.size) (currency text : String) :
    ofMinor minor currency ≠ .error (.invalidAmount text) := by
  unfold ofMinor
  split
  · simp
  · rw [dif_pos h]
    simp

/-- A number of major units is refused as an amount where its minor units do not fit 64 bits. -/
theorem ofMajor_eq_invalidAmount_iff {amount : Nat} {currency text : String} :
    ofMajor amount currency = .error (.invalidAmount text) ↔
      Decimal.write amount = text ∧
        2 ^ 64 - 1 < amount * Currency.factor (Currency.normalize currency) := by
  have hsize : UInt64.size = 2 ^ 64 := rfl
  unfold ofMajor
  dsimp only
  split
  · next hsmall => exact iff_of_false (ofMinor_ne_invalidAmount hsmall currency text) (by omega)
  · next hlarge =>
    rw [Except.error.injEq, MoneyError.invalidAmount.injEq]
    exact ⟨fun h ↦ ⟨h, by omega⟩, And.left⟩

/-- **Amounts are read back.** The number in the display form of an amount is the amount again, and
so is its number of major units, where it has one.  Only numbers of more than 64 bits of minor units
are refused, and no two amounts look the same. -/
theorem isReadBack :
    (∀ money : Money, ofMajorText (numberPart money.display) money.currency.code = .ok money) ∧
    (∀ (money : Money) (amount : Nat), money.toMajor = .ok amount →
      ofMajor amount money.currency.code = .ok money) ∧
    (∀ (amount : Nat) (currency : String) (money : Money), ofMajor amount currency = .ok money →
      money.toMajor = .ok amount) ∧
    (∀ (amount : Nat) (currency : String),
      (∃ text, ofMajor amount currency = .error (.invalidAmount text)) ↔
        2 ^ 64 - 1 < amount * Currency.factor (Currency.normalize currency)) ∧
    Function.Injective display := by
  refine ⟨fun money ↦ ?_, fun money amount h ↦ ?_, fun amount currency money h ↦ ?_,
    fun amount currency ↦ ?_, display_injective⟩
  · rw [numberPart_display]
    exact money.ofMajorText_writeNumber
  · rw [ofMajor_eq_ok_iff, Currency.normalize_of_isCurrencyCode money.currency.isCode]
    exact ⟨toMajor_eq_ok_iff.mp h, rfl⟩
  · obtain ⟨hminor, hcode⟩ := ofMajor_eq_ok_iff.mp h
    rw [toMajor_eq_ok_iff, factor, hcode]
    exact hminor
  · simp only [ofMajor_eq_invalidAmount_iff, exists_eq_left']

end MobileMoney.Money
