/-!
# Finite binary floating point numbers

A `Binary64` is a sign with `mantissa * 2 ^ exponent`, where the mantissa has at most 53 bits and
the exponent is at least -1074.  Rounding takes a quotient of natural numbers to the nearest such
number, a tie to the even mantissa, and fails when the number is too large; products and quotients
are exact before they are rounded.
-/

namespace MobileMoney.Decimal

structure Binary64 where
  negative : Bool
  mantissa : Nat
  exponent : Int
deriving DecidableEq

namespace Binary64

def minExponent : Int := -1074

def maxExponent : Int := 971

def mantissaBound : Nat := Nat.pow 2 53

def zero (negative : Bool) : Binary64 :=
  ⟨negative, 0, minExponent⟩

/-- `n / d * 2 ^ k` as a numerator and a denominator. -/
def scale (n d : Nat) (k : Int) : Nat × Nat :=
  if 0 ≤ k then (n * Nat.pow 2 k.toNat, d) else (n, d * Nat.pow 2 (-k).toNat)

/-- The quotient to the nearest integer, a tie to the even one. -/
def divideToEven (n d : Nat) : Nat :=
  let q := n / d
  let r := n % d
  if d < 2 * r ∨ (2 * r = d ∧ q % 2 = 1) then q + 1 else q

/-- The greatest `e` with `2 ^ e ≤ n / d`. -/
def floorLog2 (n d : Nat) : Int :=
  let guess : Int := (Nat.log2 n : Int) - (Nat.log2 d : Int)
  let (num, den) := scale n d (-guess)
  if num < den then guess - 1 else guess

/-- The number nearest to a quotient. -/
def nearest? (negative : Bool) (n d : Nat) : Option Binary64 :=
  if n = 0 then some (zero negative) else
    let exponent := max (floorLog2 n d - 52) minExponent
    let (num, den) := scale n d (-exponent)
    let rounded := divideToEven num den
    let (mantissa, exponent) :=
      if rounded = mantissaBound then (Nat.pow 2 52, exponent + 1) else (rounded, exponent)
    if maxExponent < exponent then none else some ⟨negative, mantissa, exponent⟩

def ofNat? (negative : Bool) (n : Nat) : Option Binary64 :=
  nearest? negative n 1

/-- The magnitude as a numerator and a denominator. -/
def ratio (x : Binary64) : Nat × Nat :=
  scale x.mantissa 1 x.exponent

def mul? (x y : Binary64) : Option Binary64 :=
  let (n, d) := x.ratio
  let (n', d') := y.ratio
  nearest? (x.negative != y.negative) (n * n') (d * d')

/-- The quotient by a number that is not zero. -/
def div? (x y : Binary64) : Option Binary64 :=
  let (n, d) := x.ratio
  let (n', d') := y.ratio
  nearest? (x.negative != y.negative) (n * d') (d * n')

end Binary64

end MobileMoney.Decimal
