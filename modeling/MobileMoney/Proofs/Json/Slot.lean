import Mathlib.Data.List.Forall2
import Mathlib.Data.List.Nodup
import MobileMoney.Json.Slot

/-!
# Fields of records

Which document a field of a record is read from: the member of its name in an object, the item at
its position in an array.  The slots of an object that states every field once, in order, are the
values it states, and what is read of each field is read from its value.
-/

namespace MobileMoney

/-- A list is read item by item. -/
theorem mapM_eq_some_iff {α β : Type} {read : α → Option β} {items : List α} {found : List β} :
    items.mapM read = some found ↔
      List.Forall₂ (fun item value ↦ read item = some value) items found := by
  induction items generalizing found with
  | nil => simp [eq_comm]
  | cons item items ih =>
    rw [List.mapM_cons, List.forall₂_cons_left_iff]
    simp [ih, Option.bind_eq_some_iff, @eq_comm _ found]

theorem mapM_congr_of_forall₂ {α β : Type} {read : α → Option β} {items others : List α}
    (h : List.Forall₂ (fun item other ↦ read item = read other) items others) :
    items.mapM read = others.mapM read := by
  induction h with
  | nil => rfl
  | cons hread _ ih => rw [List.mapM_cons, List.mapM_cons, hread, ih]

namespace Json

variable {α : Type} {read : Json → Option α} {slot : Slot} {document value : Json}
  {names : List String} {slots : List Slot}

/-! ## Where a field is read from -/

/-- The value of a field: in an object by its name, in an array by its position. -/
def field? (name : String) (position : Nat) : Json → Option Json
  | .object members => members.lookup name
  | .array items => items[position]?
  | _ => none

theorem lookup_eq_head?_filter (members : List (String × Json)) (name : String) :
    members.lookup name = (members.filter (·.1 = name)).head?.map (·.2) := by
  induction members with
  | nil => rfl
  | cons member members ih =>
    rw [List.lookup_cons, List.filter_cons, ih]
    by_cases hname : member.1 = name
    · simp [hname]
    · rw [beq_false_of_ne (Ne.symm hname), decide_eq_false hname]
      rfl

theorem lookup_of_slotOf? {members : List (String × Json)} {name : String}
    (h : slotOf? members name = some (.given value)) : members.lookup name = some value := by
  rw [lookup_eq_head?_filter]
  unfold slotOf? at h
  split at h
  · simp at h
  · next member hmember =>
    rw [hmember]
    simpa using h
  · simp at h

theorem getElem?_of_itemSlots {count position : Nat} {items : List Json}
    (h : (itemSlots count items)[position]? = some (.given value)) :
    items[position]? = some value := by
  induction count generalizing position items with
  | zero => simp [itemSlots] at h
  | succ count ih =>
    cases items with
    | nil =>
      cases position with
      | zero => simp [itemSlots] at h
      | succ position =>
        have hnone : ([] : List Json)[position]? = some value := ih h
        simp at hnone
    | cons item rest =>
      cases position with
      | zero => simpa [itemSlots] using h
      | succ position =>
        have hrest : rest[position]? = some value := ih h
        rwa [List.getElem?_cons_succ]

/-- A slot holds the value of its field. -/
theorem field?_of_slots? {name : String} {position : Nat}
    (h : document.slots? names = some slots) (hname : names[position]? = some name)
    (hslot : slots[position]? = some (.given value)) :
    document.field? name position = some value := by
  cases document with
  | object members =>
    have hall := List.forall₂_iff_get.mp (mapM_eq_some_iff.mp h)
    obtain ⟨hposition, rfl⟩ := List.getElem?_eq_some_iff.mp hname
    obtain ⟨hposition', hgiven⟩ := List.getElem?_eq_some_iff.mp hslot
    have hslotOf := hall.2 position hposition hposition'
    rw [List.get_eq_getElem, List.get_eq_getElem, hgiven] at hslotOf
    exact lookup_of_slotOf? hslotOf
  | array items =>
    obtain ⟨-, hslots⟩ := Option.ite_none_right_eq_some.mp h
    rw [← Option.some.inj hslots] at hslot
    exact getElem?_of_itemSlots hslot
  | _ => cases h

/-! ## Objects that state every field -/

theorem filter_of_mem {members : List (String × Json)} {name : String}
    (hdistinct : (members.map (·.1)).Nodup) (h : (name, value) ∈ members) :
    members.filter (·.1 = name) = [(name, value)] := by
  induction members with
  | nil => cases h
  | cons member members ih =>
    rw [List.map_cons, List.nodup_cons] at hdistinct
    obtain rfl | hrest := List.mem_cons.mp h
    · have hnone : members.filter (·.1 = name) = [] := by
        refine List.filter_eq_nil_iff.mpr fun other hother hname ↦ hdistinct.1 ?_
        exact List.mem_map.mpr ⟨other, hother, of_decide_eq_true hname⟩
      rw [List.filter_cons, if_pos (decide_eq_true rfl), hnone]
    · have hother : ¬ decide (member.1 = name) = true := by
        intro hname
        apply hdistinct.1
        rw [of_decide_eq_true hname]
        exact List.mem_map_of_mem (f := (·.1)) hrest
      rw [List.filter_cons, if_neg hother, ih hdistinct.2 hrest]

/-- The slots of an object that states every field, in order. -/
theorem slots?_zip (names : List String) (values : List Json) (hdistinct : names.Nodup)
    (hlength : names.length = values.length) :
    (object (names.zip values)).slots? names = some (values.map .given) := by
  have hnames : (names.zip values).map (·.1) = names := List.map_fst_zip (Nat.le_of_eq hlength)
  rw [← hnames] at hdistinct
  refine mapM_eq_some_iff.mpr (List.forall₂_map_right_iff.mpr ?_)
  refine List.forall₂_iff_zip.mpr ⟨hlength, fun hmem ↦ ?_⟩
  rw [slotOf?, filter_of_mem hdistinct hmem]

/-- Two documents of a record that differ in the value of one field, if at all. -/
def DifferAt (names : List String) (position : Nat) (differ : Json → Json → Prop)
    (a b : Json) : Prop :=
  ∃ before after value other, before.length = position ∧ differ value other ∧
    a.slots? names = some (before ++ .given value :: after) ∧
    b.slots? names = some (before ++ .given other :: after)

/-! ## What is read of it -/

theorem nat?_eq_some_iff {document : Json} {n : Nat} :
    document.nat? = some n ↔ document = .nat n := by
  constructor
  · intro h
    unfold nat? at h
    split at h
    · rw [← Option.some.inj h]
      rfl
    · cases h
  · rintro rfl
    rfl

theorem text?_eq_some_iff {document : Json} {value : String} :
    document.text? = some value ↔ document = .text value := by
  cases document <;> simp [text?]

namespace Slot

theorem required?_eq_some_iff {found : α} :
    slot.required? read = some found ↔ ∃ value, slot = .given value ∧ read value = some found := by
  cases slot <;> simp [required?]

theorem given_of_optional? {found : α} (h : slot.optional? read = some (some found)) :
    ∃ value, slot = .given value ∧ read value = some found := by
  unfold optional? at h
  split at h
  · simp at h
  · next value _ => exact ⟨value, rfl, by simpa using h⟩
  · simp at h
  · simp at h

theorem given_of_trailing? {found : α} (h : slot.trailing? read = some (some found)) :
    ∃ value, slot = .given value ∧ read value = some found := by
  unfold trailing? at h
  split at h
  · simp at h
  · exact given_of_optional? h

end Slot

/-- What is written for a value is read as this value, and not taken for a missing one. -/
structure ReadsBack (read : Json → Option α) (write : α → Json) : Prop where
  read_write : ∀ found, read (write found) = some found
  ne_null : ∀ found, write found ≠ .null

theorem nat_readsBack : ReadsBack nat? nat where
  read_write _ := rfl
  ne_null _ h := by cases h

theorem text_readsBack : ReadsBack text? text where
  read_write _ := rfl
  ne_null _ h := by cases h

section ReadsBack

variable {β : Type} {write : α → Json} (h : ReadsBack read write)
include h

/-! The next field is read when the ones before it have been. -/

theorem ReadsBack.required?_bind (found : α) (next : α → Option β) :
    ((Slot.given (write found)).required? read).bind next = next found := by
  rw [Slot.required?, h.read_write, Option.bind_some]

theorem ReadsBack.default?_bind (value found : α) (next : α → Option β) :
    ((Slot.given (write found)).default? value read).bind next = next found := by
  rw [Slot.default?, h.read_write, Option.bind_some]

theorem ReadsBack.optional?_bind (found : Option α) (next : Option α → Option β) :
    ((Slot.given (.optional write found)).optional? read).bind next = next found := by
  cases found with
  | none => rfl
  | some value =>
    rw [optional, Slot.optional?, h.read_write, Option.map_some, Option.bind_some]
    exact h.ne_null value

theorem ReadsBack.trailing?_bind (found : Option α) (next : Option α → Option β) :
    ((Slot.given (.optional write found)).trailing? read).bind next = next found :=
  h.optional?_bind found next

end ReadsBack

end Json

end MobileMoney
