import MobileMoney.Proofs.Decimal.Notation

/-!
# Plain numerals

Digits, with or without a point, are decimal texts.  A whole number is denoted by its digits alone
and by its digits with any number of zeros after the point.  Padding a number with zeros in front
does not change it.
-/

namespace MobileMoney.Decimal

/-! ## Digits and a point -/

theorem isGrouped_of_isDigit {cs : List Char} (hne : cs ≠ []) (h : ∀ c ∈ cs, c.isDigit = true) :
    IsGrouped cs := by
  obtain ⟨c, rest, rfl⟩ := List.exists_cons_of_ne_nil hne
  exact ⟨⟨c, rfl, h c List.mem_cons_self⟩, fun d hd ↦ .inl (h d hd)⟩

theorem ungrouped_of_isDigit {cs : List Char} (h : ∀ c ∈ cs, c.isDigit = true) :
    ungrouped cs = cs :=
  List.filter_eq_self.mpr fun c hc ↦ decide_eq_true (ne_of_isDigit (h c hc) rfl)

theorem isDecimal_of_isDigit {cs : List Char} (hne : cs ≠ []) (h : ∀ c ∈ cs, c.isDigit = true) :
    IsDecimal IsReadSignificand cs (valueOf cs) := by
  have hwhole := IsSignificand.whole .unsigned (isGrouped_of_isDigit hne h)
  have hfits : IsRepresentable 0 0 := ⟨by decide, by decide, by decide, by decide⟩
  have hplain := IsDecimal.plain (IsReadSignificand.regular hwhole) hfits
  rw [ungrouped_of_isDigit h] at hplain
  simpa [Sign.write, Sign.factor] using hplain

/-- Digits with a point denote the number that they are without the point, divided by a power of
ten. -/
theorem isDecimal_of_point {whole fraction : List Char} (hne : whole ≠ [])
    (hwhole : ∀ c ∈ whole, c.isDigit = true) (hfraction : ∀ c ∈ fraction, c.isDigit = true)
    (few : fraction.length < 2 ^ 63) :
    IsDecimal IsReadSignificand (whole ++ '.' :: fraction)
      (valueOf (whole ++ fraction) / 10 ^ fraction.length) := by
  have hdigits : ∀ c ∈ whole ++ fraction, c.isDigit = true :=
    List.forall_mem_append.mpr ⟨hwhole, hfraction⟩
  have hgrouped := isGrouped_of_isDigit (List.append_ne_nil_of_left_ne_nil hne fraction) hdigits
  have hpointed := IsSignificand.pointed .unsigned hgrouped
  rw [ungrouped_of_isDigit hdigits, ungrouped_of_isDigit hfraction] at hpointed
  have hfits : IsRepresentable fraction.length 0 := ⟨by decide, by decide, by omega, by omega⟩
  have hplain := IsDecimal.plain (IsReadSignificand.regular hpointed) hfits
  simpa [Sign.write, Sign.factor] using hplain

theorem valueOf_append (lead trail : List Char) :
    valueOf (lead ++ trail) = 10 ^ trail.length * valueOf lead + valueOf trail := by
  rw [valueOf, Nat.ofDigitChars_append, Nat.ofDigitChars_eq_ofDigitChars_zero]
  rfl

theorem valueOf_zeros (count : Nat) : valueOf (List.replicate count '0') = 0 := by
  rw [valueOf, Nat.ofDigitChars_replicate_zero, Nat.mul_zero]

theorem isDigit_of_mem_zeros {count : Nat} {c : Char} (h : c ∈ List.replicate count '0') :
    c.isDigit = true := by
  rw [List.eq_of_mem_replicate h]
  decide

/-! ## Whole numbers -/

/-- The decimal notations of a whole number: its digits, or its digits with zeros after the point.
A text in memory has less than `2 ^ 63` characters, so the bound leaves none of them out. -/
inductive IsWhole (n : Nat) : List Char → Prop
  | plain : IsWhole n (digits n)
  | zeros (count : Nat) (few : count < Exact.scaleBound) :
      IsWhole n (digits n ++ '.' :: List.replicate count '0')

theorem IsWhole.isDecimal {n : Nat} {cs : List Char} (h : IsWhole n cs) :
    IsDecimal IsReadSignificand cs n := by
  have hdigits : ∀ c ∈ digits n, c.isDigit = true := fun _ ↦ isDigit_of_mem_digits
  cases h with
  | plain =>
    have hplain := isDecimal_of_isDigit (digits_ne_nil n) hdigits
    rwa [valueOf_digits] at hplain
  | zeros count few =>
    have hpow : (10 : ℚ) ^ count ≠ 0 := pow_ne_zero _ (by decide)
    have hzeros : ∀ c ∈ List.replicate count '0', c.isDigit = true := fun _ ↦ isDigit_of_mem_zeros
    have hpoint := isDecimal_of_point (digits_ne_nil n) hdigits hzeros
      (by rwa [List.length_replicate])
    rwa [valueOf_append, valueOf_zeros, valueOf_digits, List.length_replicate, Nat.add_zero,
      Nat.cast_mul, Nat.cast_pow, Nat.cast_ofNat, mul_div_cancel_left₀ _ hpow] at hpoint

/-! ## Padded numbers -/

theorem isDigit_of_mem_padded {width n : Nat} {c : Char} (h : c ∈ padded width n) :
    c.isDigit = true := by
  obtain hzero | hdigit := List.mem_append.mp h
  · exact isDigit_of_mem_zeros hzero
  · exact isDigit_of_mem_digits hdigit

theorem valueOf_padded (width n : Nat) : valueOf (padded width n) = n := by
  rw [padded, valueOf_append, valueOf_zeros, Nat.mul_zero, Nat.zero_add, valueOf_digits]

theorem length_padded {width n : Nat} (hpos : 0 < width) (h : n < Nat.pow 10 width) :
    (padded width n).length = width := by
  have hshort : (digits n).length ≤ width := (Nat.length_toDigits_le_iff (by decide) hpos).mpr h
  rw [padded, List.length_append, List.length_replicate]
  omega

end MobileMoney.Decimal
