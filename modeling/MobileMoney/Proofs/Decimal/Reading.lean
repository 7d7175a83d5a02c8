import Mathlib.Data.List.TakeWhile
import MobileMoney.Proofs.Decimal.Notation

/-!
# Reading decimal notation

The reader of amounts decides its grammar: it reads the texts that the grammar has and no others,
each as the number that it denotes.
-/

namespace MobileMoney.Decimal

theorem read?_eq_some_iff {cs : List Char} {n : Nat} :
    read? cs = some n ↔ cs ≠ [] ∧ (∀ c ∈ cs, c.isDigit = true) ∧ valueOf cs = n := by
  simp [read?, and_assoc]

namespace Exact

/-! ## Digits -/

theorem isDigitOrUnderscore_iff {c : Char} :
    isDigitOrUnderscore c = true ↔ c.isDigit = true ∨ c = '_' := by
  simp [isDigitOrUnderscore]

theorem readGrouped?_of_isGrouped {cs : List Char} (h : IsGrouped cs) :
    readGrouped? cs = some (valueOf (ungrouped cs)) := by
  have hall : cs.all isDigitOrUnderscore = true :=
    List.all_eq_true.mpr fun c hc ↦ isDigitOrUnderscore_iff.mpr (h.all c hc)
  obtain ⟨c, rest, rfl, hdigit⟩ := h.exists_cons
  unfold readGrouped?
  split
  · contradiction
  · next heq =>
    obtain ⟨rfl, -⟩ := List.cons.inj heq
    contradiction
  · rw [if_pos hall]
    rfl

theorem isGrouped_of_readGrouped? {cs : List Char} {n : Nat} (h : readGrouped? cs = some n) :
    IsGrouped cs ∧ valueOf (ungrouped cs) = n := by
  unfold readGrouped? at h
  split at h
  · contradiction
  · contradiction
  · next hnonempty hfirst =>
    obtain ⟨c, rest, rfl⟩ := List.exists_cons_of_ne_nil hnonempty
    obtain ⟨hall, hvalue⟩ := Option.ite_none_right_eq_some.mp h
    have hkinds : ∀ d ∈ c :: rest, d.isDigit = true ∨ d = '_' := fun d hd ↦
      isDigitOrUnderscore_iff.mp (List.all_eq_true.mp hall d hd)
    have hdigit : c.isDigit = true := by
      obtain hdigit | rfl := hkinds c List.mem_cons_self
      · exact hdigit
      · exact absurd rfl (hfirst rest)
    exact ⟨⟨⟨c, rfl, hdigit⟩, hkinds⟩, Option.some.inj hvalue⟩

/-! ## Signs -/

theorem ne_sign_of_isDigit {c : Char} (h : c.isDigit = true) : c ≠ '-' ∧ c ≠ '+' :=
  ⟨ne_of_isDigit h rfl, ne_of_isDigit h rfl⟩

/-- A text that begins with a digit has no sign. -/
theorem readSigned?_of_isDigit {c : Char} (h : c.isDigit = true) (rest : List Char) :
    readSigned? (c :: rest) = (readGrouped? (c :: rest)).map fun n ↦ (false, n) := by
  simp [readSigned?, ne_sign_of_isDigit h]

/-- The reading of a sign and a group of digits. -/
theorem exists_readSigned?_write {digits : List Char} (sign : Sign) (h : IsGrouped digits) :
    ∃ negative n, readSigned? (sign.write ++ digits) = some (negative, n) ∧
      signed negative n = sign.factor * valueOf (ungrouped digits) := by
  have hgroup := readGrouped?_of_isGrouped h
  cases sign with
  | plus =>
    refine ⟨false, valueOf (ungrouped digits), ?_, (one_mul _).symm⟩
    change (readGrouped? digits).map _ = _
    rw [hgroup, Option.map_some]
  | minus =>
    refine ⟨true, valueOf (ungrouped digits), ?_, (neg_one_mul _).symm⟩
    change (readGrouped? digits).map _ = _
    rw [hgroup, Option.map_some]
  | unsigned =>
    refine ⟨false, valueOf (ungrouped digits), ?_, (one_mul _).symm⟩
    obtain ⟨c, rest, rfl, hdigit⟩ := h.exists_cons
    change readSigned? (c :: rest) = _
    rw [readSigned?_of_isDigit hdigit, hgroup, Option.map_some]

/-- What is left behind a sign is a group of digits. -/
theorem isGrouped_of_map {rest : List Char} {flag negative : Bool} {n : Nat} {sign : Sign}
    (hsign : ∀ m : Nat, signed flag m = sign.factor * m)
    (h : ((readGrouped? rest).map fun n ↦ (flag, n)) = some (negative, n)) :
    IsGrouped rest ∧ signed negative n = sign.factor * valueOf (ungrouped rest) := by
  obtain ⟨value, hread, hpair⟩ := Option.map_eq_some_iff.mp h
  obtain ⟨hgrouped, rfl⟩ := isGrouped_of_readGrouped? hread
  obtain ⟨rfl, rfl⟩ := Prod.mk.inj hpair
  exact ⟨hgrouped, hsign _⟩

/-- What is read with a sign is a sign and a group of digits. -/
theorem exists_sign_of_readSigned? {text : List Char} {negative : Bool} {n : Nat}
    (h : readSigned? text = some (negative, n)) :
    ∃ (sign : Sign) (digits : List Char), text = sign.write ++ digits ∧ IsGrouped digits ∧
      signed negative n = sign.factor * valueOf (ungrouped digits) := by
  unfold readSigned? at h
  split at h
  · next rest => exact ⟨.minus, rest, rfl, isGrouped_of_map (fun _ ↦ (neg_one_mul _).symm) h⟩
  · next rest => exact ⟨.plus, rest, rfl, isGrouped_of_map (fun _ ↦ (one_mul _).symm) h⟩
  · exact ⟨.unsigned, text, rfl, isGrouped_of_map (fun _ ↦ (one_mul _).symm) h⟩

/-! ## Points -/

theorem withoutPoint_of_notMem {cs : List Char} (h : '.' ∉ cs) : withoutPoint cs = (cs, 0) := by
  have hpoint : ∀ c ∈ cs, decide (c ≠ '.') = true :=
    fun c hc ↦ decide_eq_true fun heq ↦ h (heq ▸ hc)
  rw [withoutPoint, List.takeWhile_eq_self_iff.mpr hpoint, List.dropWhile_eq_nil_iff.mpr hpoint,
    List.drop_nil, List.append_nil]
  rfl

theorem withoutPoint_at {lead : List Char} (h : '.' ∉ lead) (trail : List Char) :
    withoutPoint (lead ++ '.' :: trail) = (lead ++ trail, (ungrouped trail).length) := by
  have hpoint : ∀ c ∈ lead, decide (c ≠ '.') = true :=
    fun c hc ↦ decide_eq_true fun heq ↦ h (heq ▸ hc)
  rw [withoutPoint, List.takeWhile_append_of_pos hpoint, List.dropWhile_append_of_pos hpoint]
  simp [ungrouped]

/-- The sign stands in front of everything, or behind a leading point. -/
theorem isReadSignificand_of_write {lead trail digits : List Char} (sign : Sign)
    (h : IsGrouped digits) (heq : lead ++ trail = sign.write ++ digits) :
    IsReadSignificand (lead ++ '.' :: trail) (sign.factor * valueOf (ungrouped digits))
      (ungrouped trail).length := by
  have hsigned {c : Char} (hwrite : sign.write = [c]) (hsign : sign ≠ .unsigned) (hc : c ≠ '_') :
      IsReadSignificand (lead ++ '.' :: trail) (sign.factor * valueOf (ungrouped digits))
        (ungrouped trail).length := by
    rw [hwrite, List.singleton_append] at heq
    cases lead with
    | nil =>
      have hplaces : (ungrouped trail).length = (ungrouped digits).length + 1 := by
        rw [show trail = c :: digits from heq]
        simp [ungrouped, hc]
      have hinside := IsReadSignificand.signAfterPoint hsign h
      rwa [hwrite, List.singleton_append, ← heq, ← hplaces] at hinside
    | cons first whole =>
      obtain ⟨rfl, hdigits⟩ := List.cons.inj heq
      rw [← hdigits] at h ⊢
      have hregular := IsSignificand.pointed sign h
      rw [hwrite] at hregular
      exact .regular hregular
  cases sign with
  | plus => exact hsigned rfl (by simp) (by decide)
  | minus => exact hsigned rfl (by simp) (by decide)
  | unsigned =>
    have hdigits : lead ++ trail = digits := heq
    rw [← hdigits] at h ⊢
    exact .regular (.pointed .unsigned h)

theorem point_notMem_write (sign : Sign) : '.' ∉ sign.write :=
  sign.notMem_write (by decide) (by decide)

theorem isReadSignificand_of_reading {cs : List Char} {negative : Bool} {n : Nat}
    (h : readSigned? (withoutPoint cs).1 = some (negative, n)) :
    IsReadSignificand cs (signed negative n) (withoutPoint cs).2 := by
  obtain ⟨sign, digits, htext, hgrouped, hnumber⟩ := exists_sign_of_readSigned? h
  rw [hnumber]
  by_cases hpoint : '.' ∈ cs
  · obtain ⟨lead, trail, rfl, hlead⟩ := List.eq_append_cons_of_mem hpoint
    rw [withoutPoint_at hlead] at htext ⊢
    exact isReadSignificand_of_write sign hgrouped htext
  · rw [withoutPoint_of_notMem hpoint] at htext ⊢
    rw [show cs = sign.write ++ digits from htext]
    exact .regular (.whole sign hgrouped)

theorem exists_reading_of_isReadSignificand {cs : List Char} {number : Int} {places : Nat}
    (h : IsReadSignificand cs number places) :
    (withoutPoint cs).2 = places ∧
      ∃ negative n, readSigned? (withoutPoint cs).1 = some (negative, n) ∧
        signed negative n = number := by
  cases h with
  | regular h =>
    cases h with
    | whole sign hgrouped =>
      have hpoint : '.' ∉ sign.write ++ _ := List.not_mem_append (point_notMem_write sign)
        (hgrouped.notMem (by decide) (by decide))
      rw [withoutPoint_of_notMem hpoint]
      exact ⟨rfl, exists_readSigned?_write sign hgrouped⟩
    | @pointed sign whole fraction hgrouped =>
      have hwhole : '.' ∉ whole := fun hmem ↦ hgrouped.notMem (by decide) (by decide)
        (List.mem_append_left fraction hmem)
      rw [withoutPoint_at (List.not_mem_append (point_notMem_write sign) hwhole),
        List.append_assoc]
      exact ⟨rfl, exists_readSigned?_write sign hgrouped⟩
  | @signAfterPoint sign hsigned fraction hgrouped =>
    have hplaces :
        (ungrouped (sign.write ++ fraction)).length = (ungrouped fraction).length + 1 := by
      cases sign with
      | unsigned => exact absurd rfl hsigned
      | plus => simp [ungrouped, Sign.write]
      | minus => simp [ungrouped, Sign.write]
    have hparts := withoutPoint_at (List.not_mem_nil (a := '.')) (sign.write ++ fraction)
    rw [List.nil_append] at hparts
    rw [hparts]
    exact ⟨hplaces, exists_readSigned?_write sign hgrouped⟩

/-! ## Exponents -/

theorem readExponent?_of_isDigit {c : Char} (h : c.isDigit = true) (rest : List Char) :
    readExponent? (c :: rest) =
      ((Decimal.read? (c :: rest)).filter (· < exponentBound)).map Int.ofNat := by
  simp [readExponent?, ne_sign_of_isDigit h]

theorem isExponent_of_readExponent? {cs : List Char} {exponent : Int}
    (h : readExponent? cs = some exponent) :
    IsExponent cs exponent ∧ -2 ^ 127 ≤ exponent ∧ exponent < 2 ^ 127 := by
  have hbound : exponentBound = 2 ^ 127 := rfl
  unfold readExponent? at h
  split at h
  · next rest =>
    simp only [Option.map_eq_some_iff, Option.bind_eq_bind, Option.bind_eq_some_iff,
      Option.filter_eq_some_iff, Decimal.read?_eq_some_iff, decide_eq_true_eq] at h
    obtain ⟨_, ⟨n, ⟨⟨hne, hdigits, rfl⟩, hfits⟩, ⟨⟩⟩, rfl⟩ := h
    rw [← neg_one_mul]
    exact ⟨.intro .minus hne hdigits, by omega, by omega⟩
  · next rest =>
    simp only [Option.map_eq_some_iff, Option.filter_eq_some_iff, Decimal.read?_eq_some_iff,
      decide_eq_true_eq] at h
    obtain ⟨n, ⟨⟨hne, hdigits, rfl⟩, hfits⟩, rfl⟩ := h
    rw [Int.ofNat_eq_natCast, ← one_mul (Nat.cast _)]
    exact ⟨.intro .plus hne hdigits, by omega, by omega⟩
  · simp only [Option.map_eq_some_iff, Option.filter_eq_some_iff, Decimal.read?_eq_some_iff,
      decide_eq_true_eq] at h
    obtain ⟨n, ⟨⟨hne, hdigits, rfl⟩, hfits⟩, rfl⟩ := h
    rw [Int.ofNat_eq_natCast, ← one_mul (Nat.cast _)]
    exact ⟨.intro .unsigned hne hdigits, by omega, by omega⟩

theorem readExponent?_of_isExponent {cs : List Char} {exponent : Int} (h : IsExponent cs exponent)
    (hleast : -2 ^ 127 ≤ exponent) (hmost : exponent < 2 ^ 127) :
    readExponent? cs = some exponent := by
  have hbound : exponentBound = 2 ^ 127 := rfl
  obtain ⟨sign, hne, hdigits⟩ := h
  next digits =>
  have hread : Decimal.read? digits = some (valueOf digits) :=
    Decimal.read?_eq_some_iff.mpr ⟨hne, hdigits, rfl⟩
  cases sign with
  | minus =>
    rw [Sign.factor] at hleast
    have hfits : valueOf digits ≤ exponentBound := by omega
    change readExponent? ('-' :: digits) = _
    rw [readExponent?, hread]
    simp [Option.filter_some, hfits, Sign.factor]
  | plus =>
    rw [Sign.factor] at hmost
    have hfits : valueOf digits < exponentBound := by omega
    change readExponent? ('+' :: digits) = _
    rw [readExponent?, hread]
    simp [Option.filter_some, hfits, Sign.factor]
  | unsigned =>
    rw [Sign.factor] at hmost
    have hfits : valueOf digits < exponentBound := by omega
    obtain ⟨c, rest, rfl⟩ := List.exists_cons_of_ne_nil hne
    change readExponent? (c :: rest) = _
    rw [readExponent?_of_isDigit (hdigits c List.mem_cons_self), hread]
    simp [Option.filter_some, hfits, Sign.factor]

/-! ## Texts -/

theorem isExponentMark_iff {c : Char} : isExponentMark c = true ↔ c = 'e' ∨ c = 'E' := by
  simp [isExponentMark]

theorem isExponentMark_eq_false {cs : List Char} {number : Int} {places : Nat}
    (h : IsReadSignificand cs number places) : ∀ c ∈ cs, isExponentMark c = false := by
  intro c hmem
  by_contra hmark
  have hother : c.isDigit = false ∧ c ≠ '_' ∧ c ≠ '+' ∧ c ≠ '-' ∧ c ≠ '.' := by
    obtain rfl | rfl := isExponentMark_iff.mp (eq_true_of_ne_false hmark) <;> decide
  obtain ⟨hdigit, hunderscore, hplus, hminus, hpoint⟩ := hother
  have hsign (sign : Sign) : c ∉ sign.write := sign.notMem_write hplus hminus
  cases h with
  | regular h =>
    cases h with
    | whole sign hgrouped =>
      exact List.not_mem_append (hsign sign) (hgrouped.notMem hdigit hunderscore) hmem
    | pointed sign hgrouped =>
      have hparts := hgrouped.notMem hdigit hunderscore
      simp only [List.mem_append, not_or] at hparts
      simp [hsign sign, hparts, hpoint] at hmem
  | signAfterPoint hsigned hgrouped =>
    simp [hsign, hgrouped.notMem hdigit hunderscore, hpoint] at hmem

/-- The decimal of a text without an exponent and of an exponent, where its scale fits 64 bits. -/
def ofParts? (base : List Char) (exponent : Int) : Option Exact :=
  let scale : Int := (withoutPoint base).2 - exponent
  if scale < -(scaleBound : Int) ∨ (scaleBound : Int) ≤ scale then none
  else (readSigned? (withoutPoint base).1).bind fun number ↦ some ⟨number.1, number.2, scale⟩

theorem ofParts?_eq_some_iff {base : List Char} {exponent : Int} {x : Exact} :
    ofParts? base exponent = some x ↔
      (-2 ^ 63 ≤ x.scale ∧ x.scale < 2 ^ 63) ∧ x.scale = (withoutPoint base).2 - exponent ∧
        readSigned? (withoutPoint base).1 = some (x.negative, x.digits) := by
  have hbound : scaleBound = 2 ^ 63 := rfl
  rw [ofParts?, Option.ite_none_left_eq_some, Option.bind_eq_some_iff]
  constructor
  · rintro ⟨hfits, number, hread, ⟨⟩⟩
    exact ⟨by dsimp only; omega, rfl, hread⟩
  · rintro ⟨hfits, hscale, hread⟩
    exact ⟨by omega, _, hread, by rw [← hscale]⟩

theorem read?_of_notMem {cs : List Char} (h : ∀ c ∈ cs, isExponentMark c = false) :
    read? cs = ofParts? cs 0 := by
  have hall : ∀ c ∈ cs, (!isExponentMark c) = true := fun c hc ↦ by rw [h c hc]; rfl
  rw [read?, List.takeWhile_eq_self_iff.mpr hall, List.dropWhile_eq_nil_iff.mpr hall]
  simp [ofParts?]

theorem read?_append {base : List Char} (h : ∀ c ∈ base, isExponentMark c = false) {mark : Char}
    (hmark : isExponentMark mark = true) (power : List Char) :
    read? (base ++ mark :: power) = (readExponent? power).bind (ofParts? base) := by
  have hall : ∀ c ∈ base, (!isExponentMark c) = true := fun c hc ↦ by rw [h c hc]; rfl
  rw [read?, List.takeWhile_append_of_pos hall, List.dropWhile_append_of_pos hall]
  simp only [hmark, Bool.not_true, Bool.false_eq_true, not_false_eq_true,
    List.dropWhile_cons_of_neg, List.takeWhile_cons_of_neg, List.append_nil, Option.bind_eq_bind]
  rfl

theorem value_eq {x : Exact} {number : Int} {places : Nat} {exponent : Int}
    (hnumber : signed x.negative x.digits = number)
    (hscale : x.scale = places - exponent) :
    x.value = number / 10 ^ places * 10 ^ exponent := by
  have hexponent : -(places - exponent : Int) = -(places : Int) + exponent := by omega
  rw [value, hnumber, hscale, hexponent, zpow_add₀ (by decide), zpow_neg, zpow_natCast, ← mul_assoc,
    ← div_eq_mul_inv]

/-- The parts of a text are read exactly where they are a significand with a scale of 64 bits. -/
theorem exists_ofParts?_iff {base : List Char} {exponent : Int} {v : ℚ} :
    (∃ x, ofParts? base exponent = some x ∧ x.value = v) ↔
      ∃ (number : Int) (places : Nat), IsReadSignificand base number places ∧
        (-2 ^ 63 ≤ places - exponent ∧ places - exponent < 2 ^ 63) ∧
        number / 10 ^ places * 10 ^ exponent = v := by
  simp only [ofParts?_eq_some_iff]
  constructor
  · rintro ⟨x, ⟨hfits, hscale, hread⟩, rfl⟩
    rw [hscale] at hfits
    exact ⟨_, _, isReadSignificand_of_reading hread, hfits, (value_eq rfl hscale).symm⟩
  · rintro ⟨number, places, hsignificand, hfits, rfl⟩
    obtain ⟨rfl, negative, n, hread, hnumber⟩ := exists_reading_of_isReadSignificand hsignificand
    exact ⟨⟨negative, n, _⟩, ⟨hfits, rfl, hread⟩, value_eq hnumber rfl⟩

/-- **What is read.** A text is read exactly where the grammar of the reader has it, as the number
that it denotes. -/
theorem exists_read?_iff {cs : List Char} {v : ℚ} :
    (∃ x, read? cs = some x ∧ x.value = v) ↔ IsDecimal IsReadSignificand cs v := by
  constructor
  · rintro ⟨x, hread, hvalue⟩
    cases hfind : cs.find? isExponentMark with
    | none =>
      have hplain : ∀ c ∈ cs, isExponentMark c = false :=
        fun c hc ↦ Bool.eq_false_iff.mpr (List.find?_eq_none.mp hfind c hc)
      rw [read?_of_notMem hplain] at hread
      obtain ⟨number, places, hsignificand, hscale, rfl⟩ :=
        exists_ofParts?_iff.mp ⟨x, hread, hvalue⟩
      rw [zpow_zero, mul_one]
      exact .plain hsignificand ⟨by decide, by decide, hscale.1, hscale.2⟩
    | some mark =>
      obtain ⟨hmark, base, power, rfl, hbase⟩ := List.find?_eq_some_iff_append.mp hfind
      have hplain : ∀ c ∈ base, isExponentMark c = false := by simpa using hbase
      rw [read?_append hplain hmark, Option.bind_eq_some_iff] at hread
      obtain ⟨exponent, hexponent, hparts⟩ := hread
      obtain ⟨number, places, hsignificand, hscale, rfl⟩ :=
        exists_ofParts?_iff.mp ⟨x, hparts, hvalue⟩
      obtain ⟨hpower, hleast, hmost⟩ := isExponent_of_readExponent? hexponent
      exact .scientific hsignificand (isExponentMark_iff.mp hmark) hpower
        ⟨hleast, hmost, hscale.1, hscale.2⟩
  · intro h
    cases h with
    | plain hsignificand fits =>
      rw [read?_of_notMem (isExponentMark_eq_false hsignificand)]
      refine exists_ofParts?_iff.mpr ⟨_, _, hsignificand, ⟨fits.scale_ge, fits.scale_lt⟩, ?_⟩
      rw [zpow_zero, mul_one]
    | scientific hsignificand hmark hpower fits =>
      rw [read?_append (isExponentMark_eq_false hsignificand)
          (isExponentMark_iff.mpr hmark),
        readExponent?_of_isExponent hpower fits.exponent_ge fits.exponent_lt, Option.bind_some]
      exact exists_ofParts?_iff.mpr ⟨_, _, hsignificand, ⟨fits.scale_ge, fits.scale_lt⟩, rfl⟩

end Exact

end MobileMoney.Decimal
