import MobileMoney.Json.Reader
import MobileMoney.Proofs.Text.Letters

/-!
# Scalars of documents

The text of a leaf is the text it holds, or the number in its written form.  A scalar is what is
left of it when it is trimmed; of a number nothing is trimmed away.
-/

namespace MobileMoney

/-! ## Written numbers -/

namespace Decimal

/-- The characters that numbers are written with. -/
def isNumeral (c : Char) : Bool :=
  c.isDigit || c = '-' || c = '+' || c = '.' || c = 'e'

theorem isBlank_of_isNumeral {c : Char} (h : isNumeral c = true) : Text.isBlank c = false := by
  simp only [isNumeral, Bool.or_eq_true, decide_eq_true_eq] at h
  obtain (((hdigit | rfl) | rfl) | rfl) | rfl := h
  · exact Text.isBlank_of_isDigit hdigit
  all_goals decide

theorem isNumeral_digits (n : Nat) : ∀ c ∈ digits n, isNumeral c = true := by
  intro c hc
  simp [isNumeral, isDigit_of_mem_digits hc]

theorem isNumeral_writeInt (value : Int) : ∀ c ∈ writeInt value, isNumeral c = true := by
  cases value with
  | ofNat n => exact isNumeral_digits n
  | negSucc n =>
    rw [writeInt, List.forall_mem_cons]
    exact ⟨rfl, isNumeral_digits (n + 1)⟩

theorem isNumeral_filled {ds : List Char} (h : ∀ c ∈ ds, isNumeral c = true) (n : Nat) :
    ∀ c ∈ ds ++ List.replicate n '0', isNumeral c = true := by
  rw [List.forall_mem_append]
  refine ⟨h, fun c hc ↦ ?_⟩
  rw [List.eq_of_mem_replicate hc]
  rfl

theorem NumberStyle.isNumeral_writePositive (style : NumberStyle) (x : Scientific) :
    ∀ c ∈ style.writePositive x, isNumeral c = true := by
  have hdigits := isNumeral_digits x.digits
  unfold NumberStyle.writePositive
  simp only
  split
  · split
    · -- The zeros stand between the point and the digits.
      rw [List.forall_mem_cons, List.forall_mem_cons]
      refine ⟨rfl, rfl, fun c hc ↦ ?_⟩
      exact isNumeral_filled hdigits _ c (List.perm_append_comm.mem_iff.mp hc)
    · have hfilled (n : Nat) := isNumeral_filled hdigits n
      rw [List.forall_mem_append, List.forall_mem_cons]
      refine ⟨fun c hc ↦ hfilled _ c (List.mem_of_mem_take hc), rfl, ?_⟩
      split
      · exact List.forall_mem_singleton.mpr rfl
      · exact fun c hc ↦ hfilled _ c (List.mem_of_mem_drop hc)
  · rw [List.forall_mem_append, List.forall_mem_append, List.forall_mem_cons, List.forall_mem_cons]
    refine ⟨⟨fun c hc ↦ hdigits c (List.mem_of_mem_take hc), ?_⟩, rfl, ?_, isNumeral_digits _⟩
    · split
      · exact List.forall_mem_nil _
      · rw [List.forall_mem_cons]
        exact ⟨rfl, fun c hc ↦ hdigits c (List.mem_of_mem_drop hc)⟩
    · split <;> rfl

theorem NumberStyle.writePositive_ne_nil (style : NumberStyle) (x : Scientific) :
    style.writePositive x ≠ [] := by
  unfold NumberStyle.writePositive
  simp only
  split
  · split <;> simp
  · simp

theorem NumberStyle.isNumeral_write (style : NumberStyle) (x : Binary64) :
    ∀ c ∈ style.write x, isNumeral c = true := by
  have hbody : ∀ c ∈ (if x.mantissa = 0 then ['0', '.', '0'] else style.writePositive x.shortest),
      isNumeral c = true := by
    split
    · exact List.all_eq_true.mp (by decide)
    · exact style.isNumeral_writePositive x.shortest
  unfold NumberStyle.write
  simp only
  split
  · rw [List.forall_mem_cons]
    exact ⟨rfl, hbody⟩
  · exact hbody

theorem NumberStyle.write_ne_nil (style : NumberStyle) (x : Binary64) : style.write x ≠ [] := by
  unfold NumberStyle.write
  simp only
  split
  · exact List.cons_ne_nil _ _
  · split
    · exact List.cons_ne_nil _ _
    · exact style.writePositive_ne_nil x.shortest

end Decimal

open Decimal

namespace Number

theorem isNumeral_write (number : Number) : ∀ c ∈ number.write, isNumeral c = true := by
  cases number with
  | integer value => exact isNumeral_writeInt value
  | double value => exact NumberStyle.document.isNumeral_write value

theorem write_ne_nil (number : Number) : number.write ≠ [] := by
  cases number with
  | integer value =>
    cases value with
    | ofNat n => exact digits_ne_nil n
    | negSucc n => exact List.cons_ne_nil _ _
  | double value => exact NumberStyle.document.write_ne_nil value

/-- Nothing is trimmed away from a number. -/
theorem content?_write (number : Number) :
    Text.content? (String.ofList number.write) = some (String.ofList number.write) := by
  have htrim : Text.trim (String.ofList number.write) = String.ofList number.write := by
    apply Text.trim_eq_self
    intro c hc
    rw [String.toList_ofList] at hc
    exact isBlank_of_isNumeral (number.isNumeral_write c hc)
  rw [Text.content?_eq_some_iff, htrim, ne_eq, String.ofList_eq_empty_iff]
  exact ⟨number.write_ne_nil, rfl⟩

end Number

/-! ## Leaves -/

namespace Json

/-- The text that a leaf holds, or the written form of its number. -/
def leafText? : Json → Option String
  | .text value => some value
  | .number value => some (String.ofList value.write)
  | _ => none

def leafTextAt? (path : List String) (document : Json) : Option String :=
  (document.at? path).bind leafText?

theorem scalar?_eq (document : Json) :
    document.scalar? = document.leafText?.bind Text.content? := by
  cases document with
  | text value => rw [leafText?, Option.bind_some, ← Text.nonBlank?_map_trim, scalar?]
  | number value => rw [leafText?, Option.bind_some, value.content?_write, scalar?]
  | _ => rfl

theorem scalarAt?_eq (path : List String) (document : Json) :
    document.scalarAt? path = (document.leafTextAt? path).bind Text.content? := by
  have hscalar : scalar? = fun inner ↦ inner.leafText?.bind Text.content? := funext scalar?_eq
  rw [scalarAt?, leafTextAt?, Option.bind_assoc, hscalar]

/-- A path can be followed in two parts. -/
theorem at?_append (path rest : List String) (document : Json) :
    document.at? (path ++ rest) = (document.at? path).bind (·.at? rest) := by
  simp only [at?, List.foldlM_append, Option.bind_eq_bind]

/-- A leaf is read from any document on the way to it. -/
theorem exists_scalarAt?_of_leafTextAt? {document : Json} (path rest : List String) {text : String}
    (h : document.leafTextAt? (path ++ rest) = some text) :
    ∃ inner, document.at? path = some inner ∧ inner.scalarAt? rest = Text.content? text := by
  rw [leafTextAt?, at?_append, Option.bind_assoc] at h
  obtain ⟨inner, hinner, hleaf⟩ := Option.bind_eq_some_iff.mp h
  refine ⟨inner, hinner, ?_⟩
  rw [scalarAt?_eq, leafTextAt?, hleaf, Option.bind_some]

end Json

end MobileMoney
