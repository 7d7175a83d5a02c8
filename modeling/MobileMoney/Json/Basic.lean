import MobileMoney.Decimal.Shortest
import MobileMoney.Text.Blank

/-!
# JSON documents

The values a document is made of.  Objects keep their members in the order of the text.
`unreadable` stands for a leaf that is well written but has no value, a number beyond every double
or a text with half a surrogate pair: a reader that is not interested in it may pass over it.
-/

namespace MobileMoney

open Decimal

/-- Whole numbers in the range of 64-bit integers are kept as they are; all others are doubles. -/
inductive Number where
  | integer (value : Int)
  | double (value : Binary64)
deriving DecidableEq

namespace Number

def write : Number → List Char
  | .integer value => writeInt value
  | .double value => NumberStyle.document.write value

end Number

inductive Json where
  | null
  | bool (value : Bool)
  | number (value : Number)
  | text (value : String)
  | array (items : List Json)
  | object (members : List (String × Json))
  | unreadable

namespace Json

def nat (n : Nat) : Json :=
  .number (.integer n)

def optional (write : α → Json) : Option α → Json
  | some value => write value
  | none => .null

mutual

/-- How deep arrays and objects are nested. -/
def depth : Json → Nat
  | .array items => depthOfItems items + 1
  | .object members => depthOfMembers members + 1
  | _ => 0

def depthOfItems : List Json → Nat
  | [] => 0
  | item :: rest => max item.depth (depthOfItems rest)

def depthOfMembers : List (String × Json) → Nat
  | [] => 0
  | (_, value) :: rest => max value.depth (depthOfMembers rest)

end

mutual

/-- Whether every leaf has a value. -/
def isReadable : Json → Bool
  | .array items => itemsReadable items
  | .object members => membersReadable members
  | .unreadable => false
  | _ => true

def itemsReadable : List Json → Bool
  | [] => true
  | item :: rest => item.isReadable && itemsReadable rest

def membersReadable : List (String × Json) → Bool
  | [] => true
  | (_, value) :: rest => value.isReadable && membersReadable rest

end

mutual

/-- The document in which, of the members of one name, only the last is left. -/
def settled : Json → Json
  | .array items => .array (settledItems items)
  | .object members => .object (settledMembers members)
  | leaf => leaf

def settledItems : List Json → List Json
  | [] => []
  | item :: rest => item.settled :: settledItems rest

def settledMembers : List (String × Json) → List (String × Json)
  | [] => []
  | (name, value) :: rest =>
    let later := settledMembers rest
    if later.any (·.1 = name) then later else (name, value.settled) :: later

end

/-- The member of an object; nothing for any other document. -/
def member? (name : String) : Json → Option Json
  | .object members => members.lookup name
  | _ => none

/-- The member at the end of a path of names. -/
def at? (path : List String) (document : Json) : Option Json :=
  path.foldlM (fun inner name ↦ inner.member? name) document

def text? : Json → Option String
  | .text value => some value
  | _ => none

def items? : Json → Option (List Json)
  | .array items => some items
  | _ => none

/-- A text that is not blank, trimmed, or a number in its written form. -/
def scalar? : Json → Option String
  | .text value => (Text.nonBlank? value).map Text.trim
  | .number value => some (String.ofList value.write)
  | _ => none

/-- The scalar at the end of a path. -/
def scalarAt? (path : List String) (document : Json) : Option String :=
  (document.at? path).bind scalar?

end Json

end MobileMoney
