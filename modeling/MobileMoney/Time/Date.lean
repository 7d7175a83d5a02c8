import MobileMoney.Decimal.Digits
import MobileMoney.Text.Blank

/-!
# Calendar dates

Dates of the Gregorian calendar, extended to all years, counted in days from the first of January
1970.  A day number is taken apart into cycles of 400, 100, 4 and 1 years and then month by month.
-/

namespace MobileMoney

def isLeapYear (year : Int) : Bool :=
  year % 4 = 0 && (year % 100 ≠ 0 || year % 400 = 0)

def monthLengths (year : Int) : List Nat :=
  [31, if isLeapYear year then 29 else 28, 31, 30, 31, 30, 31, 31, 30, 31, 30, 31]

/-- The length of a month, counted from one; none of the other numbers is a month. -/
def monthLength (year : Int) (month : Nat) : Nat :=
  if month = 0 then 0 else (monthLengths year).getD (month - 1) 0

def minYear : Int := -262143

def maxYear : Int := 262142

structure Date where
  year : Int
  month : Nat
  day : Nat
deriving DecidableEq

namespace Date

def IsValid (date : Date) : Prop :=
  minYear ≤ date.year ∧ date.year ≤ maxYear ∧
    1 ≤ date.day ∧ date.day ≤ monthLength date.year date.month

instance (date : Date) : Decidable date.IsValid :=
  inferInstanceAs (Decidable (_ ∧ _))

/-- Days from the first of January of year 1 to that of another year. -/
def daysBeforeYear (year : Int) : Int :=
  365 * (year - 1) + (year - 1) / 4 - (year - 1) / 100 + (year - 1) / 400

def daysBeforeMonth (year : Int) (month : Nat) : Nat :=
  ((monthLengths year).take (month - 1)).foldl (· + ·) 0

/-- Days from the first of January of year 1 to that of 1970. -/
def epochDays : Int := 719162

def dayNumber (date : Date) : Int :=
  daysBeforeYear date.year + daysBeforeMonth date.year date.month + date.day - 1 - epochDays

/-- Counts off whole months from a day of the year; the months counted and the days left. -/
def splitMonths : List Nat → Nat → Nat × Nat
  | [], days => (0, days)
  | length :: rest, days =>
    if days < length then (0, days)
    else
      let (months, left) := splitMonths rest (days - length)
      (months + 1, left)

def ofDayNumber (number : Int) : Date :=
  let days := number + epochDays
  let cycle := days / 146097
  let inCycle := (days % 146097).toNat
  let century := min (inCycle / 36524) 3
  let inCentury := inCycle - century * 36524
  let group := inCentury / 1461
  let inGroup := inCentury % 1461
  let single := min (inGroup / 365) 3
  let year := 400 * cycle + ((100 * century + 4 * group + single + 1 : Nat) : Int)
  let (months, left) := splitMonths (monthLengths year) (inGroup - single * 365)
  ⟨year, months + 1, left + 1⟩

/-- Four digits, or a sign and at least four digits outside the years 0 to 9999. -/
def writeYear (year : Int) : List Char :=
  if 0 ≤ year ∧ year ≤ 9999 then Decimal.padded 4 year.natAbs
  else (if year < 0 then '-' else '+') :: Decimal.padded 4 year.natAbs

def write (date : Date) : List Char :=
  writeYear date.year ++ '-' :: (Decimal.padded 2 date.month ++ '-' :: Decimal.padded 2 date.day)

/-- At least one and at most `width` digits. -/
def readField? (width : Nat) (cs : List Char) : Option (Nat × List Char) :=
  let cs := Text.trimStart cs
  let ds := (cs.take width).takeWhile Char.isDigit
  if ds.isEmpty then none else some (Decimal.valueOf ds, cs.drop ds.length)

/-- A year: four digits at most, or any number of them after a sign. -/
def readYear? (cs : List Char) : Option (Int × List Char) :=
  match Text.trimStart cs with
  | '-' :: rest => signed rest (fun n ↦ -(n : Int))
  | '+' :: rest => signed rest Int.ofNat
  | cs => (readField? 4 cs).map fun (n, rest) ↦ ((n : Int), rest)
where
  signed (cs : List Char) (value : Nat → Int) : Option (Int × List Char) :=
    let ds := cs.takeWhile Char.isDigit
    if ds.isEmpty then none
    else some (value (Decimal.valueOf ds), cs.drop ds.length)

/-- Passes over one character, with blanks before it. -/
def readMark? (mark : Char) (cs : List Char) : Option (List Char) :=
  match Text.trimStart cs with
  | c :: rest => if c = mark then some rest else none
  | [] => none

/-- A date at the beginning of a text; blanks may stand before each of its parts. -/
def readPart? (cs : List Char) : Option (Date × List Char) := do
  let (year, rest) ← readYear? cs
  let (month, rest) ← readField? 2 (← readMark? '-' rest)
  let (day, rest) ← readField? 2 (← readMark? '-' rest)
  let date : Date := ⟨year, month, day⟩
  if date.IsValid then some (date, rest) else none

def read? (s : String) : Option Date := do
  let (date, rest) ← readPart? s.toList
  if (Text.trimStart rest).isEmpty then some date else none

end Date

end MobileMoney
