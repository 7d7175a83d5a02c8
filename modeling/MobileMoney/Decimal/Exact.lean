import MobileMoney.Decimal.Digits

/-!
# Exact decimals

`Exact.read?` reads the decimal notation of amounts: a sign, digits with a point, underscores
between the digits, and an exponent.  `Exact.timesPowerOfTen?` is the value times a power of ten
when that is a natural number; it never computes a power that the size of the number does not call
for.  `Exact.timesPowerOfTenWithin?` is what a machine makes of it that compares the product with
its whole part: it computes the power of ten that the scale names, however long that is.  The
capacity of a machine is the greatest exponent of a power of ten that it can compute.
-/

namespace MobileMoney.Decimal

/-- The decimal `± digits / 10 ^ scale`. -/
structure Exact where
  negative : Bool
  digits : Nat
  scale : Int
deriving DecidableEq

namespace Exact

def isExponentMark (c : Char) : Bool :=
  c = 'e' || c = 'E'

def exponentBound : Nat := Nat.pow 2 127

def scaleBound : Nat := Nat.pow 2 63

/-- A signed integer of 128 bits. -/
def readExponent? (cs : List Char) : Option Int :=
  match cs with
  | '-' :: rest => ((Decimal.read? rest).filter (· ≤ exponentBound)).map fun n ↦ -(n : Int)
  | '+' :: rest => ((Decimal.read? rest).filter (· < exponentBound)).map Int.ofNat
  | rest => ((Decimal.read? rest).filter (· < exponentBound)).map Int.ofNat

def isDigitOrUnderscore (c : Char) : Bool :=
  c.isDigit || c = '_'

/-- Digits, with underscores after the first one. -/
def readGrouped? (cs : List Char) : Option Nat :=
  match cs with
  | [] => none
  | '_' :: _ => none
  | cs => if cs.all isDigitOrUnderscore then some (valueOf (cs.filter (· ≠ '_'))) else none

/-- One sign at most; a sign before a second sign is no sign. -/
def readSigned? : List Char → Option (Bool × Nat)
  | '-' :: rest => (readGrouped? rest).map fun n ↦ (true, n)
  | '+' :: rest => (readGrouped? rest).map fun n ↦ (false, n)
  | cs => (readGrouped? cs).map fun n ↦ (false, n)

/-- Takes out the first point; the number of characters after it, underscores not counted. -/
def withoutPoint (cs : List Char) : List Char × Nat :=
  let lead := cs.takeWhile (· ≠ '.')
  let trail := (cs.dropWhile (· ≠ '.')).drop 1
  (lead ++ trail, (trail.filter (· ≠ '_')).length)

def read? (cs : List Char) : Option Exact := do
  let base := cs.takeWhile fun c ↦ !isExponentMark c
  let exponent ←
    match cs.dropWhile fun c ↦ !isExponentMark c with
    | [] => some 0
    | _ :: rest => readExponent? rest
  let (text, places) := withoutPoint base
  let scale : Int := places - exponent
  if scale < -(scaleBound : Int) ∨ (scaleBound : Int) ≤ scale then none else
    let (negative, digits) ← readSigned? text
    return ⟨negative, digits, scale⟩

/-- No number below `2 ^ 64` has this many digits. -/
def digitLimit : Nat := 20

/-- The value times `10 ^ places`, when that is a natural number below `2 ^ 64`. -/
def timesPowerOfTen? (x : Exact) (places : Nat) : Option Nat :=
  if x.digits = 0 then some 0
  else if x.negative then none
  else
    let shift := (places : Int) - x.scale
    if 0 ≤ shift then
      if digitLimit < shift then none
      else (some (x.digits * Nat.pow 10 shift.toNat)).filter (· < UInt64.size)
    else
      let cut := (-shift).toNat
      if (Decimal.digits x.digits).length < cut then none
      else if x.digits % Nat.pow 10 cut = 0 then
        (some (x.digits / Nat.pow 10 cut)).filter (· < UInt64.size)
      else none

/-- The number without its decimal places.  The computation is aborted, and there is no result,
where the power of ten is beyond the capacity, and where the scale is the least one of 64 bits,
which has no opposite. -/
def whole? (capacity : Nat) (x : Exact) : Option Nat :=
  if x.digits = 0 then some 0
  else if x.scale = -(scaleBound : Int) ∨ capacity < x.scale.natAbs then none
  else if 0 ≤ x.scale then some (x.digits / Nat.pow 10 x.scale.natAbs)
  else some (x.digits * Nat.pow 10 x.scale.natAbs)

/-- There are nothing but zeros behind the point. -/
def isWhole (x : Exact) : Bool :=
  x.digits % Nat.pow 10 x.scale.toNat = 0

def timesPowerOfTen (x : Exact) (places : Nat) : Exact :=
  { x with digits := x.digits * Nat.pow 10 places }

/-- The multiple as a machine computes it; none where it is aborted.  A negative number is told by
its sign, before any power is computed. -/
def timesPowerOfTenWithin? (capacity : Nat) (x : Exact) (places : Nat) : Option (Option Nat) :=
  let product := x.timesPowerOfTen places
  if product.negative ∧ product.digits ≠ 0 then some none
  else (product.whole? capacity).map fun whole ↦
    if product.isWhole ∧ whole < UInt64.size then some whole else none

end Exact

end MobileMoney.Decimal
