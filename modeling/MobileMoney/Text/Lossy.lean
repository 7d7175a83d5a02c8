/-!
# Bytes as text

`lossy` reads bytes as UTF-8.  Where no character can be read, the longest beginning of a
well-formed sequence that stands there, or else a single byte, is replaced by U+FFFD.
-/

namespace MobileMoney.Text

def replacement : Char := '\ufffd'

def isContinuation (b : UInt8) : Bool :=
  0x80 ≤ b && b ≤ 0xBF

/-- How many bytes a well-formed sequence with this first byte has. -/
def sequenceLength (first : UInt8) : Nat :=
  if first < 0xC2 ∨ 0xF4 < first then 1
  else if first < 0xE0 then 2
  else if first < 0xF0 then 3
  else 4

/-- Whether a byte may come second after the first byte of a longer sequence: neither an overlong
form, nor a surrogate, nor a number beyond the last character. -/
def mayFollow (first second : UInt8) : Bool :=
  isContinuation second &&
    if first = 0xE0 then 0xA0 ≤ second
    else if first = 0xED then second < 0xA0
    else if first = 0xF0 then 0x90 ≤ second
    else if first = 0xF4 then second < 0x90
    else true

/-- How many bytes after the first are replaced together with it. -/
def brokenRest (first : UInt8) : List UInt8 → Nat
  | second :: rest =>
    if sequenceLength first ≠ 1 ∧ mayFollow first second then
      1 + ((rest.take (sequenceLength first - 3)).takeWhile isContinuation).length
    else 0
  | [] => 0

/-- The character at the beginning of some bytes. -/
def firstChar? (bytes : List UInt8) : Option Char :=
  (bytes.take 4).toByteArray.utf8DecodeChar? 0

def lossyChars : List UInt8 → List Char
  | [] => []
  | b :: rest =>
    match firstChar? (b :: rest) with
    | some c => c :: lossyChars (rest.drop (c.utf8Size - 1))
    | none => replacement :: lossyChars (rest.drop (brokenRest b rest))
termination_by bytes => bytes.length

def lossy (bytes : ByteArray) : String :=
  String.ofList (lossyChars bytes.data.toList)

end MobileMoney.Text
