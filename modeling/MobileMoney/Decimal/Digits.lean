/-!
# Decimal digits of natural numbers

`write` and `read?` are the two directions of plain decimal notation.  `readBelow?` is the notation
of a number setting: an optional plus sign, digits, and a bound.
-/

namespace MobileMoney.Decimal

/-- The digits of a number, the first one first. -/
def digits (n : Nat) : List Char :=
  Nat.toDigits 10 n

def write (n : Nat) : String :=
  String.ofList (digits n)

/-- The digits of a number, with zeros in front up to the given width. -/
def padded (width n : Nat) : List Char :=
  List.replicate (width - (digits n).length) '0' ++ digits n

def valueOf (cs : List Char) : Nat :=
  Nat.ofDigitChars 10 cs 0

def read? (cs : List Char) : Option Nat :=
  if !cs.isEmpty && cs.all Char.isDigit then some (valueOf cs) else none

def withoutPlus : List Char → List Char
  | '+' :: rest => rest
  | cs => cs

/-- A number below `limit`, with an optional plus sign. -/
def readBelow? (limit : Nat) (s : String) : Option Nat :=
  (read? (withoutPlus s.toList)).filter (· < limit)

/-- The integers in decimal notation. -/
def writeInt : Int → List Char
  | .ofNat n => digits n
  | .negSucc n => '-' :: digits (n + 1)

theorem valueOf_digits (n : Nat) : valueOf (digits n) = n :=
  Nat.ofDigitChars_toDigits (by decide) (by decide)

theorem digits_ne_nil (n : Nat) : digits n ≠ [] :=
  Nat.toDigits_ne_nil

theorem isDigit_of_mem_digits {n : Nat} {c : Char} (h : c ∈ digits n) : c.isDigit = true :=
  Nat.isDigit_of_mem_toDigits (by decide) (by decide) h

theorem ne_of_isDigit {c d : Char} (h : c.isDigit = true) (hd : d.isDigit = false) : c ≠ d := by
  rintro rfl
  rw [hd] at h
  contradiction

theorem read?_digits (n : Nat) : read? (digits n) = some n := by
  have all : (digits n).all Char.isDigit = true :=
    List.all_eq_true.mpr fun _ ↦ isDigit_of_mem_digits
  simp [read?, digits_ne_nil, all, valueOf_digits]

end MobileMoney.Decimal
