import MobileMoney.Json.Basic

/-!
# Equality of documents

Documents can be compared: two of them are equal if they agree in every leaf, every name and every
order.
-/

namespace MobileMoney.Json

mutual

/-- Whether two documents agree everywhere. -/
def same : Json → Json → Bool
  | .null, .null => true
  | .bool a, .bool b => a = b
  | .number a, .number b => a = b
  | .text a, .text b => a = b
  | .array items, .array others => sameItems items others
  | .object members, .object others => sameMembers members others
  | .unreadable, .unreadable => true
  | _, _ => false

def sameItems : List Json → List Json → Bool
  | [], [] => true
  | item :: rest, other :: others => item.same other && sameItems rest others
  | _, _ => false

def sameMembers : List (String × Json) → List (String × Json) → Bool
  | [], [] => true
  | (name, value) :: rest, (other, found) :: others =>
    name = other && value.same found && sameMembers rest others
  | _, _ => false

end

mutual

theorem same_iff : ∀ (a : Json) {b : Json}, a.same b = true ↔ a = b
  | .null, b => by cases b <;> simp [same]
  | .bool _, b => by cases b <;> simp [same]
  | .number _, b => by cases b <;> simp [same]
  | .text _, b => by cases b <;> simp [same]
  | .array items, b => by cases b <;> simp [same, sameItems_iff items]
  | .object members, b => by cases b <;> simp [same, sameMembers_iff members]
  | .unreadable, b => by cases b <;> simp [same]

theorem sameItems_iff :
    ∀ (items : List Json) {others : List Json}, sameItems items others = true ↔ items = others
  | [], others => by cases others <;> simp [sameItems]
  | item :: rest, others => by
    cases others <;> simp [sameItems, same_iff item, sameItems_iff rest]

theorem sameMembers_iff : ∀ (members : List (String × Json)) {others : List (String × Json)},
    sameMembers members others = true ↔ members = others
  | [], others => by cases others <;> simp [sameMembers]
  | (name, value) :: rest, others => by
    cases others <;> simp [sameMembers, Prod.ext_iff, same_iff value, sameMembers_iff rest]

end

instance : DecidableEq Json :=
  fun a _ ↦ decidable_of_iff _ (same_iff a)

end MobileMoney.Json
