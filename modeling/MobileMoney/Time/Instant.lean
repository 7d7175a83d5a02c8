import MobileMoney.Time.Date
import MobileMoney.Time.Duration

/-!
# Instants

Seconds from the first of January 1970 with nanoseconds.  A second that ends a minute may be a leap
second: then the nanoseconds run on to two seconds and the instant is written as second 60.
Arithmetic fails when it leaves the calendar.
-/

namespace MobileMoney

def secondsPerDay : Int := 86400

namespace Instant

def minSeconds : Int := (Date.mk minYear 1 1).dayNumber * secondsPerDay

def maxSeconds : Int := ((Date.mk maxYear 12 31).dayNumber + 1) * secondsPerDay - 1

def IsValid (seconds : Int) (nanos : Nat) : Prop :=
  minSeconds ≤ seconds ∧ seconds ≤ maxSeconds ∧
    (nanos < nanosPerSecond ∨ (nanos < 2 * nanosPerSecond ∧ seconds % 60 = 59))

instance (seconds : Int) (nanos : Nat) : Decidable (IsValid seconds nanos) :=
  inferInstanceAs (Decidable (_ ∧ _))

end Instant

structure Instant where
  seconds : Int
  nanos : Nat
  valid : Instant.IsValid seconds nanos
deriving DecidableEq

namespace Instant

def of? (seconds : Int) (nanos : Nat) : Option Instant :=
  if h : IsValid seconds nanos then some ⟨seconds, nanos, h⟩ else none

def isBefore (a b : Instant) : Bool :=
  a.seconds < b.seconds || (a.seconds = b.seconds && a.nanos < b.nanos)

/-- Adds whole and fractional seconds to a time without a leap second. -/
def carry? (seconds nanos : Int) : Option Instant :=
  of? (seconds + nanos / nanosPerSecond) (nanos % nanosPerSecond).toNat

/-- Moves an instant by nanoseconds.  Inside a leap second a fraction may stay in it; otherwise the
leap second counts as the second before it on the way forward, and as the one after on the way
back. -/
def shift? (t : Instant) (span : Int) : Option Instant :=
  let whole := span.tdiv nanosPerSecond
  let fraction := span.tmod nanosPerSecond
  let nanos : Int := t.nanos
  if t.nanos < nanosPerSecond then carry? (t.seconds + whole) (nanos + fraction)
  else
    let inside : Int := nanos - nanosPerSecond
    if 0 < whole ∨ (0 < fraction ∧ 2 * (nanosPerSecond : Int) - fraction ≤ nanos) then
      carry? (t.seconds + whole) (inside + fraction)
    else if whole < 0 then carry? (t.seconds + 1 + whole) (inside + fraction)
    else of? t.seconds (nanos + fraction).toNat

def add? (t : Instant) (d : Duration) : Option Instant :=
  t.shift? d.span

def sub? (t : Instant) (d : Duration) : Option Instant :=
  t.shift? (-d.span)

/-- The date and the second of the day. -/
def split (seconds : Int) : Date × Nat :=
  (Date.ofDayNumber (seconds / secondsPerDay), (seconds % secondsPerDay).toNat)

/-- Hours, minutes and seconds of a second of the day, each with two digits; a leap second is 60. -/
def clockFields (second : Nat) (isLeap : Bool) : List (List Char) :=
  [Decimal.padded 2 (second / 3600), Decimal.padded 2 (second / 60 % 60),
    Decimal.padded 2 (second % 60 + if isLeap then 1 else 0)]

def isLeapSecond (t : Instant) : Bool :=
  nanosPerSecond ≤ t.nanos

/-- A fraction of a second with 0, 3, 6 or 9 digits. -/
def writeFraction (nanos : Nat) : List Char :=
  if nanos = 0 then []
  else if nanos % 1000000 = 0 then '.' :: Decimal.padded 3 (nanos / 1000000)
  else if nanos % 1000 = 0 then '.' :: Decimal.padded 6 (nanos / 1000)
  else '.' :: Decimal.padded 9 nanos

/-- The instant in universal time, `YYYY-MM-DDThh:mm:ssZ`. -/
def write (t : Instant) : List Char :=
  let (date, second) := split t.seconds
  let clock := [':'].intercalate (clockFields second t.isLeapSecond)
  date.write ++ 'T' :: (clock ++ (writeFraction (t.nanos % nanosPerSecond) ++ ['Z']))

/-- East Africa Time is three hours ahead of universal time. -/
def eastAfricaOffset : Int := 3 * 3600

/-- `YYYYMMDDhhmmss` in East Africa Time. -/
def eastAfricaStamp (t : Instant) : String :=
  let (date, second) := split (t.seconds + eastAfricaOffset)
  String.ofList (Date.writeYear date.year ++ Decimal.padded 2 date.month ++
    Decimal.padded 2 date.day ++ (clockFields second t.isLeapSecond).flatten)

end Instant

end MobileMoney
