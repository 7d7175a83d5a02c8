import MobileMoney.Json.Reader

/-!
# Records in documents

A record is written as an object, or as the array of its fields in order.  Each field gets a `Slot`:
given, absent from an object, or cut off at the end of an array.  A field given twice fails, other
members are passed over.
-/

namespace MobileMoney.Json

inductive Slot where
  | given (value : Json)
  | absent
  | cut

/-- The slot of one field of an object; nothing when it is given twice. -/
def slotOf? (members : List (String × Json)) (name : String) : Option Slot :=
  match members.filter (·.1 = name) with
  | [] => some .absent
  | [(_, value)] => some (.given value)
  | _ => none

def itemSlots : Nat → List Json → List Slot
  | 0, _ => []
  | count + 1, [] => .cut :: itemSlots count []
  | count + 1, item :: rest => .given item :: itemSlots count rest

/-- One slot for each of the named fields. -/
def slots? (names : List String) : Json → Option (List Slot)
  | .object members => names.mapM (slotOf? members)
  | .array items =>
    if items.length ≤ names.length then some (itemSlots names.length items) else none
  | _ => none

namespace Slot

def required? (read : Json → Option α) : Slot → Option α
  | .given value => read value
  | _ => none

/-- A field that may be missing from an object, or null. -/
def optional? (read : Json → Option α) : Slot → Option (Option α)
  | .given .null => some none
  | .given value => (read value).map some
  | .absent => some none
  | .cut => none

/-- A field that takes a value of its own when it is missing, but may not be null. -/
def default? (value : α) (read : Json → Option α) : Slot → Option α
  | .given found => read found
  | _ => some value

/-- A field that may be missing from an object or an array, or null. -/
def trailing? (read : Json → Option α) : Slot → Option (Option α)
  | .cut => some none
  | slot => slot.optional? read

end Slot

/-- A whole number in the 64-bit range that is not negative. -/
def nat? : Json → Option Nat
  | .number (.integer (.ofNat n)) => some n
  | _ => none

/-- The name of a constant: a text, or an object whose one member has the name and is null. -/
def constant? : Json → Option String
  | .text name => some name
  | .object [(name, .null)] => some name
  | _ => none

end MobileMoney.Json
