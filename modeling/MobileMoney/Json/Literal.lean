import MobileMoney.Json.Basic

/-!
# Number literals

A literal is an optional minus sign, an integer part without needless zeros, and optionally a
fraction and an exponent.  A literal with a fraction or an exponent, the literal `-0`, and integers
outside the 64-bit range become doubles: the leading digits that fit 64 bits are rounded to a
double, which is then multiplied or divided by the double nearest the power of ten that is left.
-/

namespace MobileMoney.Json

open Decimal

structure Literal where
  negative : Bool
  whole : List Char
  fraction : Option (List Char)
  exponent : Option (Bool × List Char)

namespace Literal

def spanDigits (cs : List Char) : List Char × List Char :=
  (cs.takeWhile Char.isDigit, cs.dropWhile Char.isDigit)

def readSign : List Char → Bool × List Char
  | '-' :: rest => (true, rest)
  | '+' :: rest => (false, rest)
  | cs => (false, cs)

def isWhole (ds : List Char) : Bool :=
  match ds with
  | [] => false
  | ['0'] => true
  | d :: _ => d != '0'

/-- The exponent at the end of a literal: a sign that says whether it is negative, and digits. -/
def readExponent? : List Char → Option (Option (Bool × List Char))
  | [] => some none
  | e :: rest =>
    if e = 'e' ∨ e = 'E' then
      let (negative, rest) := readSign rest
      let (ds, rest) := spanDigits rest
      if ds.isEmpty || !rest.isEmpty then none else some (some (negative, ds))
    else none

def read? (cs : List Char) : Option Literal :=
  let (negative, cs) :=
    match cs with
    | '-' :: rest => (true, rest)
    | cs => (false, cs)
  let (whole, rest) := spanDigits cs
  if !isWhole whole then none else
    match rest with
    | '.' :: rest =>
      let (fraction, rest) := spanDigits rest
      if fraction.isEmpty then none
      else (readExponent? rest).map fun exponent ↦ ⟨negative, whole, some fraction, exponent⟩
    | rest => (readExponent? rest).map fun exponent ↦ ⟨negative, whole, none, exponent⟩

def wordBound : Nat := UInt64.size

/-- Appends digits to a number while it fits 64 bits; also returns how many digits fitted. -/
def absorb (significand : Nat) : List Char → Nat × Nat
  | [] => (significand, 0)
  | d :: rest =>
    let next := 10 * significand + (d.toNat - '0'.toNat)
    if next < wordBound then
      let (result, taken) := absorb next rest
      (result, taken + 1)
    else (significand, 0)

/-- The double nearest `10 ^ k`. -/
def powerOfTen? (k : Nat) : Option Binary64 :=
  Binary64.ofNat? false (Nat.pow 10 k)

def largestPower : Nat := 308

/-- A significand with a power of ten, by one product, or by at most two quotients. -/
def combine? (negative : Bool) (significand : Nat) (exponent : Int) : Option Binary64 := do
  let start ← Binary64.ofNat? negative significand
  if significand = 0 then return start
  let k := exponent.natAbs
  if 0 ≤ exponent then
    if largestPower < k then none else start.mul? (← powerOfTen? k)
  else if k ≤ largestPower then
    start.div? (← powerOfTen? k)
  else if k ≤ 2 * largestPower then
    (← start.div? (← powerOfTen? largestPower)).div? (← powerOfTen? (k - largestPower))
  else
    return Binary64.zero negative

def exponentBound : Nat := Nat.pow 2 31

def double? (literal : Literal) : Option Binary64 :=
  let (head, taken) := absorb 0 literal.whole
  let (significand, places) := absorb head (literal.fraction.getD [])
  let start : Int := ((literal.whole.length - taken : Nat) : Int) - (places : Int)
  match literal.exponent with
  | none => combine? literal.negative significand start
  | some (down, ds) =>
    let size := valueOf ds
    if size < exponentBound then
      combine? literal.negative significand (if down then start - size else start + size)
    else if significand ≠ 0 ∧ !down then none
    else some (Binary64.zero literal.negative)

/-- The integer of a literal without fraction and exponent, when it is in the 64-bit range. -/
def integer? (literal : Literal) : Option Int :=
  if literal.fraction.isSome || literal.exponent.isSome then none else
    let n := valueOf literal.whole
    if literal.negative then
      if n = 0 ∨ Nat.pow 2 63 < n then none else some (-(n : Int))
    else if n < wordBound then some n else none

def number? (literal : Literal) : Option Number :=
  match literal.integer? with
  | some value => some (.integer value)
  | none => literal.double?.map .double

end Literal

end MobileMoney.Json
