import Mathlib.Algebra.Order.Field.Rat
import MobileMoney.Decimal.Exact

/-!
# Decimal notation

The grammar of decimal texts and the rational numbers that they denote, without a reader.  The
reader of amounts accepts this grammar and one more form: a sign may stand right after a leading
point, where it counts as a decimal place.
-/

namespace MobileMoney.Decimal

/-! ## Grammar -/

/-- What may stand in front of digits. -/
inductive Sign where
  | unsigned
  | plus
  | minus

namespace Sign

def write : Sign → List Char
  | unsigned => []
  | plus => ['+']
  | minus => ['-']

def factor : Sign → Int
  | unsigned => 1
  | plus => 1
  | minus => -1

end Sign

/-- Digits, with underscores after the first one. -/
structure IsGrouped (cs : List Char) : Prop where
  first : ∃ c ∈ cs.head?, c.isDigit = true
  all : ∀ c ∈ cs, c.isDigit = true ∨ c = '_'

/-- The digits of a group. -/
def ungrouped (cs : List Char) : List Char :=
  cs.filter (· ≠ '_')

/-- A text without an exponent, which denotes an integer divided by a power of ten. -/
inductive IsSignificand : List Char → Int → Nat → Prop
  | whole (sign : Sign) {digits : List Char} (grouped : IsGrouped digits) :
      IsSignificand (sign.write ++ digits) (sign.factor * valueOf (ungrouped digits)) 0
  | pointed (sign : Sign) {whole fraction : List Char} (grouped : IsGrouped (whole ++ fraction)) :
      IsSignificand (sign.write ++ whole ++ '.' :: fraction)
        (sign.factor * valueOf (ungrouped (whole ++ fraction))) (ungrouped fraction).length

/-- A text without an exponent as it is read: a leading point may have the sign behind it, as one
more decimal place. -/
inductive IsReadSignificand : List Char → Int → Nat → Prop
  | regular {cs : List Char} {number : Int} {places : Nat} (h : IsSignificand cs number places) :
      IsReadSignificand cs number places
  | signAfterPoint {sign : Sign} (signed : sign ≠ .unsigned) {fraction : List Char}
      (grouped : IsGrouped fraction) :
      IsReadSignificand ('.' :: (sign.write ++ fraction))
        (sign.factor * valueOf (ungrouped fraction)) ((ungrouped fraction).length + 1)

inductive IsExponent : List Char → Int → Prop
  | intro (sign : Sign) {digits : List Char} (nonempty : digits ≠ [])
      (all : ∀ c ∈ digits, c.isDigit = true) :
      IsExponent (sign.write ++ digits) (sign.factor * valueOf digits)

/-- The exponent fits 128 bits, and the decimal places that it leaves fit 64 bits. -/
structure IsRepresentable (places : Nat) (exponent : Int) : Prop where
  exponent_ge : -2 ^ 127 ≤ exponent
  exponent_lt : exponent < 2 ^ 127
  scale_ge : -2 ^ 63 ≤ places - exponent
  scale_lt : places - exponent < 2 ^ 63

/-- A decimal text, with or without an exponent, and the number that it denotes. -/
inductive IsDecimal (significand : List Char → Int → Nat → Prop) : List Char → ℚ → Prop
  | plain {cs : List Char} {number : Int} {places : Nat} (h : significand cs number places)
      (fits : IsRepresentable places 0) : IsDecimal significand cs (number / 10 ^ places)
  | scientific {cs power : List Char} {mark : Char} {number exponent : Int} {places : Nat}
      (h : significand cs number places) (marked : mark = 'e' ∨ mark = 'E')
      (hpower : IsExponent power exponent) (fits : IsRepresentable places exponent) :
      IsDecimal significand (cs ++ mark :: power) (number / 10 ^ places * 10 ^ exponent)

namespace Exact

def signed (negative : Bool) (n : Nat) : Int :=
  if negative then -n else n

/-- The number that a decimal stands for. -/
def value (x : Exact) : ℚ :=
  signed x.negative x.digits * 10 ^ (-x.scale)

end Exact

/-! ## Characters -/

theorem IsGrouped.exists_cons {cs : List Char} (h : IsGrouped cs) :
    ∃ c rest, cs = c :: rest ∧ c.isDigit = true := by
  obtain ⟨c, hc, hdigit⟩ := h.first
  obtain ⟨rest, rfl⟩ := List.head?_eq_some_iff.mp hc
  exact ⟨c, rest, rfl, hdigit⟩

theorem IsGrouped.notMem {cs : List Char} (h : IsGrouped cs) {c : Char} (hc : c.isDigit = false)
    (hne : c ≠ '_') : c ∉ cs := by
  intro hmem
  obtain hdigit | rfl := h.all c hmem
  · rw [hc] at hdigit
    contradiction
  · exact hne rfl

theorem Sign.notMem_write (sign : Sign) {c : Char} (hplus : c ≠ '+') (hminus : c ≠ '-') :
    c ∉ sign.write := by
  cases sign <;> simp [write, hplus, hminus]

/-! ## Texts -/

/-- A significand has a sign in front and nowhere else. -/
theorem IsSignificand.exists_sign {cs : List Char} {number : Int} {places : Nat}
    (h : IsSignificand cs number places) :
    ∃ (sign : Sign) (rest : List Char), cs = sign.write ++ rest ∧ '+' ∉ rest := by
  cases h with
  | whole sign hgrouped => exact ⟨sign, _, rfl, hgrouped.notMem (by decide) (by decide)⟩
  | pointed sign hgrouped =>
    have hparts := hgrouped.notMem (c := '+') (by decide) (by decide)
    refine ⟨sign, _, List.append_assoc .., ?_⟩
    simpa using hparts

/-- A text without a mark has no exponent. -/
theorem IsDecimal.exists_significand {significand : List Char → Int → Nat → Prop}
    {cs : List Char} {v : ℚ} (h : IsDecimal significand cs v) (hsmall : 'e' ∉ cs)
    (hcapital : 'E' ∉ cs) : ∃ number places, significand cs number places := by
  cases h with
  | plain h => exact ⟨_, _, h⟩
  | scientific h marked =>
    obtain rfl | rfl := marked
    · exact absurd (List.mem_append_right _ List.mem_cons_self) hsmall
    · exact absurd (List.mem_append_right _ List.mem_cons_self) hcapital

end MobileMoney.Decimal
