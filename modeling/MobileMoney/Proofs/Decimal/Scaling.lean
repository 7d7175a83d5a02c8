import MobileMoney.Proofs.Decimal.Notation

/-!
# Scaling of decimals

The multiple of a decimal by a power of ten is computed where it is a natural number of 64 bits.
The two limits that keep the powers small, one on the shift and one on the number of digits, exclude
nothing else.  A machine that computes the powers that scales name gets the same where it gets
anything at all.
-/

namespace MobileMoney.Decimal.Exact

theorem lt_length_digits {n cut : Nat} (hcut : 0 < cut) (h : Nat.pow 10 cut ≤ n) :
    cut < (Decimal.digits n).length := by
  have hlong := mt (Nat.length_toDigits_le_iff (by decide) hcut).mp (Nat.not_lt.mpr h)
  exact Nat.lt_of_not_le hlong

theorem signed_zero (negative : Bool) : signed negative 0 = 0 := by
  cases negative <;> rfl

theorem value_mul_pow (x : Exact) (places : Nat) :
    x.value * 10 ^ places = signed x.negative x.digits * 10 ^ (places - x.scale) := by
  have hshift : (places : Int) - x.scale = -x.scale + places := by omega
  rw [value, mul_assoc, hshift, zpow_add₀ (by decide), zpow_natCast]

theorem value_mul_pow_of_negative {x : Exact} (h : x.negative = true) (hdigits : x.digits ≠ 0)
    (places : Nat) : x.value * 10 ^ places < 0 := by
  have hnumber : (signed x.negative x.digits : ℚ) < 0 := by
    rw [signed, if_pos h]
    exact_mod_cast (by omega : -(x.digits : Int) < 0)
  rw [value_mul_pow]
  exact mul_neg_of_neg_of_pos hnumber (zpow_pos (by decide) _)

/-- A multiple without decimal places left. -/
theorem value_mul_pow_eq_iff_mul {x : Exact} (hsign : x.negative = false) {places shift : Nat}
    (h : (places : Int) - x.scale = shift) {n : Nat} :
    x.value * 10 ^ places = n ↔ x.digits * Nat.pow 10 shift = n := by
  rw [value_mul_pow, hsign, signed, if_neg Bool.false_ne_true, h, zpow_natCast]
  exact_mod_cast Iff.rfl

/-- A multiple with decimal places left, which have to be zeros. -/
theorem value_mul_pow_eq_iff_div {x : Exact} (hsign : x.negative = false) {places cut : Nat}
    (h : (places : Int) - x.scale = -cut) {n : Nat} :
    x.value * 10 ^ places = n ↔ x.digits = n * Nat.pow 10 cut := by
  have hpow : (10 : ℚ) ^ cut ≠ 0 := pow_ne_zero _ (by decide)
  rw [value_mul_pow, hsign, signed, if_neg Bool.false_ne_true, h, zpow_neg, zpow_natCast,
    ← div_eq_mul_inv, div_eq_iff hpow]
  exact_mod_cast Iff.rfl

/-- A shift beyond the limit leaves no number that fits. -/
theorem size_le_mul_pow {digits shift : Nat} (hdigits : digits ≠ 0) (h : digitLimit < shift) :
    UInt64.size ≤ digits * Nat.pow 10 shift :=
  calc UInt64.size
    _ ≤ Nat.pow 10 digitLimit := by decide
    _ ≤ Nat.pow 10 shift := Nat.pow_le_pow_right (by decide) (Nat.le_of_lt h)
    _ ≤ digits * Nat.pow 10 shift := Nat.le_mul_of_pos_left _ (Nat.pos_of_ne_zero hdigits)

theorem filter_size_eq_some_iff {m n : Nat} :
    (some m).filter (· < UInt64.size) = some n ↔ n < UInt64.size ∧ m = n := by
  rw [Option.filter_eq_some_iff, Option.some_inj, decide_eq_true_iff, and_comm]

theorem timesPowerOfTen?_eq_some_iff_mul {x : Exact} (hdigits : x.digits ≠ 0)
    (hsign : x.negative = false) {places shift n : Nat} (h : (places : Int) - x.scale = shift) :
    x.timesPowerOfTen? places = some n ↔ n < UInt64.size ∧ x.digits * Nat.pow 10 shift = n := by
  simp only [timesPowerOfTen?, hdigits, hsign, h, Int.natCast_nonneg, Int.toNat_natCast,
    Nat.cast_lt, if_true, if_false, Bool.false_eq_true]
  split
  · next hlong =>
    refine iff_of_false (Option.some_ne_none n).symm fun hn ↦ ?_
    have hsize := size_le_mul_pow hdigits hlong
    omega
  · exact filter_size_eq_some_iff

theorem timesPowerOfTen?_eq_some_iff_div {x : Exact} (hdigits : x.digits ≠ 0)
    (hsign : x.negative = false) {places cut n : Nat} (hcut : 0 < cut)
    (h : (places : Int) - x.scale = -cut) :
    x.timesPowerOfTen? places = some n ↔ n < UInt64.size ∧ x.digits = n * Nat.pow 10 cut := by
  have hshift : ¬ 0 ≤ -(cut : Int) := by omega
  have hpos : 0 < Nat.pow 10 cut := Nat.pow_pos (by decide)
  simp only [timesPowerOfTen?, hdigits, hsign, h, hshift, neg_neg, Int.toNat_natCast, if_false,
    Bool.false_eq_true]
  split
  · next hshort =>
    refine iff_of_false (Option.some_ne_none n).symm fun hn ↦ ?_
    have hleast : Nat.pow 10 cut ≤ x.digits := by
      rw [hn.2]
      exact Nat.le_mul_of_pos_left _
        (Nat.pos_of_ne_zero fun hzero ↦ hdigits (by rw [hn.2, hzero, Nat.zero_mul]))
    have hlong := lt_length_digits hcut hleast
    omega
  · split
    · next hmod =>
      rw [filter_size_eq_some_iff, Nat.div_eq_iff_eq_mul_left hpos (Nat.dvd_of_mod_eq_zero hmod)]
    · next hmod =>
      refine iff_of_false (Option.some_ne_none n).symm fun hn ↦ hmod ?_
      rw [hn.2, Nat.mul_mod_left]

/-- **Scaling.** The value times a power of ten is computed exactly where it is a natural number
below `2 ^ 64`. -/
theorem timesPowerOfTen?_eq_some_iff {x : Exact} {places n : Nat} :
    x.timesPowerOfTen? places = some n ↔ n < UInt64.size ∧ x.value * 10 ^ places = n := by
  by_cases hdigits : x.digits = 0
  · have hvalue : x.value = 0 := by
      rw [value, hdigits, signed_zero, Int.cast_zero, zero_mul]
    rw [timesPowerOfTen?, if_pos hdigits, hvalue, zero_mul, Option.some_inj, eq_comm (a := (0 : ℚ)),
      Nat.cast_eq_zero, eq_comm]
    exact ⟨fun h ↦ ⟨by rw [h]; decide, h⟩, And.right⟩
  cases hsign : x.negative with
  | true =>
    rw [timesPowerOfTen?, if_neg hdigits, if_pos hsign]
    refine iff_of_false (Option.some_ne_none n).symm fun h ↦ ?_
    have hvalue := value_mul_pow_of_negative hsign hdigits places
    rw [h.2] at hvalue
    exact absurd (Nat.cast_nonneg n) (not_le.mpr hvalue)
  | false =>
    obtain ⟨shift, hshift⟩ | ⟨cut, hcut, hshift⟩ :
        (∃ shift : Nat, (places : Int) - x.scale = shift) ∨
          ∃ cut : Nat, 0 < cut ∧ (places : Int) - x.scale = -cut := by
      obtain hle | hlt := le_or_gt 0 ((places : Int) - x.scale)
      · exact .inl (Int.eq_ofNat_of_zero_le hle)
      · exact .inr ⟨(x.scale - places).toNat, by omega, by omega⟩
    · rw [timesPowerOfTen?_eq_some_iff_mul hdigits hsign hshift,
        value_mul_pow_eq_iff_mul hsign hshift]
    · rw [timesPowerOfTen?_eq_some_iff_div hdigits hsign hcut hshift,
        value_mul_pow_eq_iff_div hsign hshift]

/-! ## Machines with a capacity -/

/-- A positive number whose scale names a power of ten beyond the capacity of a machine, or has no
opposite. -/
structure IsLost (capacity : Nat) (x : Exact) : Prop where
  digits_ne_zero : x.digits ≠ 0
  nonneg : x.negative = false
  scale : x.scale = -(scaleBound : Int) ∨ capacity < x.scale.natAbs

variable {x : Exact} {capacity : Nat}

theorem whole?_eq_none_iff :
    x.whole? capacity = none ↔
      x.digits ≠ 0 ∧ (x.scale = -(scaleBound : Int) ∨ capacity < x.scale.natAbs) := by
  unfold whole?
  split
  · next hdigits => simp [hdigits]
  · next hdigits =>
    split
    · next hscale => simp [hdigits, hscale]
    · next hscale =>
      simp only [hscale, and_false, iff_false]
      split <;> exact Option.some_ne_none _

theorem mod_eq_zero_and_div_eq_iff {m n d : Nat} (hd : 0 < d) :
    m % d = 0 ∧ m / d = n ↔ m = n * d := by
  constructor
  · rintro ⟨hmod, hdiv⟩
    exact (Nat.div_eq_iff_eq_mul_left hd (Nat.dvd_of_mod_eq_zero hmod)).mp hdiv
  · rintro rfl
    exact ⟨Nat.mul_mod_left n d, Nat.mul_div_cancel n hd⟩

theorem whole?_cases {whole : Nat} (h : x.whole? capacity = some whole) :
    x.digits = 0 ∧ whole = 0 ∨
    x.digits ≠ 0 ∧ 0 ≤ x.scale ∧ x.digits / Nat.pow 10 x.scale.natAbs = whole ∨
    x.digits ≠ 0 ∧ x.scale < 0 ∧ x.digits * Nat.pow 10 x.scale.natAbs = whole := by
  unfold whole? at h
  split at h
  · next hdigits => exact .inl ⟨hdigits, (Option.some.inj h).symm⟩
  · next hdigits =>
    split at h
    · cases h
    · split at h
      · next hscale => exact .inr (.inl ⟨hdigits, hscale, Option.some.inj h⟩)
      · next hscale => exact .inr (.inr ⟨hdigits, Int.not_le.mp hscale, Option.some.inj h⟩)

/-- The whole part is the number where there are only zeros behind the point. -/
theorem isWhole_and_whole_eq_iff {whole n : Nat} (h : x.whole? capacity = some whole)
    (hsign : x.negative = false ∨ x.digits = 0) :
    x.isWhole = true ∧ whole = n ↔ x.value = n := by
  have hvalue : x.value = x.value * 10 ^ 0 := by rw [pow_zero, mul_one]
  rw [isWhole, decide_eq_true_iff]
  obtain ⟨hdigits, rfl⟩ | ⟨hdigits, hscale, rfl⟩ | ⟨hdigits, hscale, rfl⟩ := whole?_cases h
  · simp [value, hdigits, signed_zero, eq_comm]
  · have hcut : ((0 : Nat) : Int) - x.scale = -(x.scale.natAbs : Int) := by omega
    have hnat : x.scale.toNat = x.scale.natAbs := by omega
    rw [hvalue, value_mul_pow_eq_iff_div (hsign.resolve_right hdigits) hcut, hnat]
    exact mod_eq_zero_and_div_eq_iff (Nat.pow_pos (by decide))
  · have hshift : ((0 : Nat) : Int) - x.scale = (x.scale.natAbs : Int) := by omega
    have hnat : x.scale.toNat = 0 := by omega
    rw [hvalue, value_mul_pow_eq_iff_mul (hsign.resolve_right hdigits) hshift, hnat]
    exact and_iff_right (Nat.mod_one _)

theorem timesPowerOfTen_value (x : Exact) (places : Nat) :
    (x.timesPowerOfTen places).value = x.value * 10 ^ places := by
  have hsigned : signed x.negative (x.digits * Nat.pow 10 places) =
      signed x.negative x.digits * 10 ^ places := by
    cases x.negative <;> simp [signed]
  rw [value, value, timesPowerOfTen, hsigned, Int.cast_mul, Int.cast_pow, mul_right_comm]
  rfl

theorem timesPowerOfTen_digits_eq_zero_iff {places : Nat} :
    (x.timesPowerOfTen places).digits = 0 ↔ x.digits = 0 := by
  have hpos : 0 < Nat.pow 10 places := Nat.pow_pos (by decide)
  rw [timesPowerOfTen, Nat.mul_eq_zero]
  exact or_iff_left (Nat.ne_of_gt hpos)

theorem timesPowerOfTenWithin?_eq_none_iff {places : Nat} :
    x.timesPowerOfTenWithin? capacity places = none ↔ x.IsLost capacity := by
  simp only [timesPowerOfTenWithin?, ne_eq, timesPowerOfTen_digits_eq_zero_iff]
  split
  · next hnegative =>
    refine iff_of_false (Option.some_ne_none _) fun hlost ↦ ?_
    exact Bool.false_ne_true (hlost.nonneg.symm.trans hnegative.1)
  · next hnegative =>
    rw [Option.map_eq_none_iff, whole?_eq_none_iff, ne_eq, timesPowerOfTen_digits_eq_zero_iff]
    constructor
    · rintro ⟨hdigits, hscale⟩
      exact ⟨hdigits, eq_false_of_ne_true fun hsign ↦ hnegative ⟨hsign, hdigits⟩, hscale⟩
    · exact fun hlost ↦ ⟨hlost.digits_ne_zero, hlost.scale⟩

/-- **A capacity changes no result.**  Whatever it is, what a machine computes is the multiple. -/
theorem timesPowerOfTenWithin?_eq_some {places : Nat} {found : Option Nat}
    (h : x.timesPowerOfTenWithin? capacity places = some found) :
    found = x.timesPowerOfTen? places := by
  simp only [timesPowerOfTenWithin?, ne_eq, timesPowerOfTen_digits_eq_zero_iff] at h
  split at h
  · next hnegative =>
    obtain rfl := Option.some.inj h
    have hsign : x.negative = true := hnegative.1
    rw [timesPowerOfTen?, if_neg hnegative.2, if_pos hsign]
  · next hnegative =>
    obtain ⟨whole, hwhole, rfl⟩ := Option.map_eq_some_iff.mp h
    have hsign : (x.timesPowerOfTen places).negative = false ∨
        (x.timesPowerOfTen places).digits = 0 := by
      rw [timesPowerOfTen_digits_eq_zero_iff]
      by_contra hnot
      rw [not_or, Bool.not_eq_false] at hnot
      exact hnegative hnot
    ext n
    rw [timesPowerOfTen?_eq_some_iff, ← timesPowerOfTen_value,
      ← isWhole_and_whole_eq_iff hwhole hsign]
    split
    · next hfits =>
      rw [Option.some_inj]
      exact ⟨fun heq ↦ ⟨heq ▸ hfits.2, hfits.1, heq⟩, fun hn ↦ hn.2.2⟩
    · next hunfit =>
      refine iff_of_false (Option.some_ne_none n).symm fun hn ↦ hunfit ?_
      exact ⟨hn.2.1, hn.2.2.symm ▸ hn.1⟩

end MobileMoney.Decimal.Exact
