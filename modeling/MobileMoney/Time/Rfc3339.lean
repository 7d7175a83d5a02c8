import MobileMoney.Time.Instant

/-!
# Reading date-times

A date, `T` or a blank, a time with an optional fraction, and an offset from universal time: `Z`,
`UTC`, or hours and minutes after a sign.  Blanks are allowed around the parts of the date and of
the time and before and after the offset.  A fraction is cut after nine digits.
-/

namespace MobileMoney.Instant

open Text

structure ClockReading where
  hour : Nat
  minute : Nat
  second : Nat
  nanos : Nat

/-- Digits after a point, as nanoseconds. -/
def readFraction? (cs : List Char) : Option (Nat × List Char) :=
  match cs with
  | '.' :: rest =>
    let ds := rest.takeWhile Char.isDigit
    if ds.isEmpty then none
    else
      let kept := ds.take 9
      some (Decimal.valueOf kept * Nat.pow 10 (9 - kept.length), rest.dropWhile Char.isDigit)
  | cs => some (0, cs)

def readClock? (cs : List Char) : Option (ClockReading × List Char) := do
  let (hour, rest) ← Date.readField? 2 cs
  let (minute, rest) ← Date.readField? 2 (← Date.readMark? ':' rest)
  let (second, rest) ← Date.readField? 2 (← Date.readMark? ':' rest)
  let (nanos, rest) ← readFraction? rest
  if hour < 24 ∧ minute < 60 ∧ second ≤ 60 then some (⟨hour, minute, second, nanos⟩, rest)
  else none

def twoDigits? : List Char → Option (Nat × List Char)
  | a :: b :: rest =>
    if a.isDigit && b.isDigit then some (Decimal.valueOf [a, b], rest) else none
  | _ => none

/-- Hours and minutes, with colons or blanks between them, in seconds. -/
def readHours? (cs : List Char) : Option (Int × List Char) := do
  let (hours, rest) ← twoDigits? cs
  let (minutes, rest) ← twoDigits? (rest.dropWhile fun c ↦ c = ':' || isBlank c)
  if minutes < 60 then some (((hours * 3600 + minutes * 60 : Nat) : Int), rest) else none

/-- Seconds to the east of universal time. -/
def readOffset? (cs : List Char) : Option (Int × List Char) :=
  if (cs.take 3).map Char.toUpper = ['U', 'T', 'C'] then some (0, cs.drop 3)
  else match cs with
    | 'Z' :: rest => some (0, rest)
    | 'z' :: rest => some (0, rest)
    | '+' :: rest => readHours? rest
    | '-' :: rest => (readHours? rest).map fun (n, rest) ↦ (-n, rest)
    | '\u2212' :: rest => (readHours? rest).map fun (n, rest) ↦ (-n, rest)
    | _ => none

def readSeparator? : List Char → Option (List Char)
  | 'T' :: rest => some rest
  | 't' :: rest => some rest
  | ' ' :: rest => some rest
  | _ => none

/-- The instant of a local date and time; second 60 is the leap second after second 59. -/
def ofLocal? (date : Date) (clock : ClockReading) (offset : Int) : Option Instant :=
  let isLeap := clock.second = 60
  let second := if isLeap then 59 else clock.second
  let nanos := if isLeap then clock.nanos + nanosPerSecond else clock.nanos
  let ofDay : Nat := clock.hour * 3600 + clock.minute * 60 + second
  of? (date.dayNumber * secondsPerDay + ofDay - offset) nanos

def read? (s : String) : Option Instant := do
  let (date, rest) ← Date.readPart? s.toList
  let (clock, rest) ← readClock? (← readSeparator? rest)
  let (offset, rest) ← readOffset? (trimStart rest)
  if (trimStart rest).isEmpty ∧ offset.natAbs < 86400 then ofLocal? date clock offset else none

end MobileMoney.Instant
