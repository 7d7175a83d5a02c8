import MobileMoney.Decimal.Binary64
import MobileMoney.Decimal.Digits

/-!
# The shortest decimal of a binary number

Among the decimals that round to a given number, `shortest` takes those with the fewest digits and
of these the nearest.  For each count of digits only the two neighbours of the number on that
decimal grid have to be tried.
-/

namespace MobileMoney.Decimal

/-- A positive decimal `digits * 10 ^ exponent`. -/
structure Scientific where
  digits : Nat
  exponent : Int
deriving DecidableEq

namespace Scientific

def dropZeros : Nat → Scientific → Scientific
  | 0, x => x
  | fuel + 1, x =>
    if x.digits % 10 = 0 ∧ x.digits ≠ 0 then dropZeros fuel ⟨x.digits / 10, x.exponent + 1⟩ else x

end Scientific

namespace Binary64

/-- The interval that rounds to a number, in quarters of its last place. -/
structure Neighbourhood where
  low : Nat
  value : Nat
  high : Nat
  closed : Bool

def neighbourhood (x : Binary64) : Neighbourhood where
  low := if x.mantissa = Nat.pow 2 52 ∧ minExponent < x.exponent then 4 * x.mantissa - 1
    else 4 * x.mantissa - 2
  value := 4 * x.mantissa
  high := 4 * x.mantissa + 2
  closed := x.mantissa % 2 = 0

/-- The greatest `e` with `10 ^ e ≤ n / d`. -/
def floorLog10 (n d : Nat) : Int :=
  if d ≤ n then ((Decimal.digits (n / d)).length : Int) - 1
  else -((Decimal.digits ((n - 1 + d) / n - 1)).length : Int)

/-- Tries the two neighbours with `count` digits. -/
def tryDigits (x : Binary64) (leading : Int) (count : Nat) : Option Scientific :=
  let around := x.neighbourhood
  let grid : Int := leading - count + 1
  -- All is compared in units of `10 ^ grid`, over the common denominator `den`.
  let (unit, den) := scale 1 1 (x.exponent - 2)
  let (unit, den) :=
    if 0 ≤ grid then (unit, den * Nat.pow 10 grid.toNat) else (unit * Nat.pow 10 (-grid).toNat, den)
  let value := around.value * unit
  let below := value / den
  let inside (k : Nat) : Bool :=
    if around.closed then around.low * unit ≤ k * den && k * den ≤ around.high * unit
    else around.low * unit < k * den && k * den < around.high * unit
  let toBelow := value - below * den
  let toAbove := (below + 1) * den - value
  let aboveFirst := toAbove < toBelow || (toAbove == toBelow && below % 2 == 1)
  let candidates := if aboveFirst then [below + 1, below] else [below, below + 1]
  (candidates.find? inside).map (⟨·, grid⟩)

def shortestFrom (x : Binary64) (leading : Int) : Nat → Nat → Option Scientific
  | 0, _ => none
  | fuel + 1, count =>
    match x.tryDigits leading count with
    | some found => some found
    | none => shortestFrom x leading fuel (count + 1)

/-- The shortest decimal of a number other than zero. -/
def shortest (x : Binary64) : Scientific :=
  let (n, d) := x.ratio
  ((shortestFrom x (floorLog10 n d) 17 1).map (Scientific.dropZeros 17)).getD ⟨0, 0⟩

end Binary64

/-- How a decimal is written: positionally for the exponents `low … high` of its first digit and
with an exponent otherwise. -/
structure NumberStyle where
  low : Int
  high : Int

/-- Numbers of a document: positional from `0.00001` up to 16 digits, with at least one digit after
the point; otherwise a signed exponent. -/
def NumberStyle.document : NumberStyle := ⟨-5, 15⟩

def NumberStyle.writePositive (style : NumberStyle) (x : Scientific) : List Char :=
  let ds := digits x.digits
  let leading : Int := x.exponent + ds.length - 1
  if style.low ≤ leading ∧ leading ≤ style.high then
    if leading < 0 then
      '0' :: '.' :: (List.replicate ((-leading).toNat - 1) '0' ++ ds)
    else
      let whole := leading.toNat + 1
      let filled := ds ++ List.replicate (whole - ds.length) '0'
      let fraction := filled.drop whole
      filled.take whole ++ '.' :: (if fraction.isEmpty then ['0'] else fraction)
  else
    let fraction := ds.drop 1
    let sign := if leading < 0 then '-' else '+'
    ds.take 1 ++ (if fraction.isEmpty then [] else '.' :: fraction) ++
      'e' :: sign :: digits leading.natAbs

def NumberStyle.write (style : NumberStyle) (x : Binary64) : List Char :=
  let body := if x.mantissa = 0 then ['0', '.', '0'] else style.writePositive x.shortest
  if x.negative then '-' :: body else body

end MobileMoney.Decimal
