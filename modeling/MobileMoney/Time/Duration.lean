/-!
# Durations

A duration is a number of nanoseconds below `2 ^ 64` seconds; what would be longer is cut to the
longest one.
-/

namespace MobileMoney

def nanosPerSecond : Nat := 1000000000

def nanosPerMilli : Nat := 1000000

structure Duration where
  nanos : Nat
  nanos_lt : nanos < UInt64.size * 1000000000
deriving DecidableEq

namespace Duration

def maxNanos : Nat := UInt64.size * 1000000000 - 1

/-- The given number of nanoseconds, or the longest duration. -/
def saturated (nanos : Nat) : Duration :=
  ⟨min nanos maxNanos, by unfold maxNanos UInt64.size; omega⟩

def zero : Duration :=
  saturated 0

def ofSeconds (n : Nat) : Duration :=
  saturated (n * nanosPerSecond)

def ofMillis (n : Nat) : Duration :=
  saturated (n * nanosPerMilli)

def scale (d : Duration) (k : Nat) : Duration :=
  saturated (d.nanos * k)

def atMost (d limit : Duration) : Duration :=
  if d.nanos ≤ limit.nanos then d else limit

def seconds (d : Duration) : Nat :=
  d.nanos / nanosPerSecond

/-- The nanoseconds beyond the whole seconds. -/
def remainder (d : Duration) : Nat :=
  d.nanos % nanosPerSecond

/-- The longest difference of two instants is one below `2 ^ 63` milliseconds. -/
def maxSpan : Nat := (Nat.pow 2 63 - 1) * 1000000

/-- The difference of instants that a duration stands for; one that is too long stands for none. -/
def span (d : Duration) : Int :=
  if d.nanos ≤ maxSpan then d.nanos else 0

end Duration

end MobileMoney
