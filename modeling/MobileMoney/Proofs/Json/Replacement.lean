import MobileMoney.Proofs.Json.Scalar

/-!
# Replaced parts of documents

`replaceAt` puts another value at the end of a path of names.  It is found there, and what stands
beside the path is left as it was.
-/

namespace MobileMoney.Json

/-- The document with another value at the end of a path; a path that leads nowhere changes
nothing. -/
def replaceAt (value : Json) : List String → Json → Json
  | [], _ => value
  | name :: path, .object members =>
    .object (members.map fun (found, inner) ↦
      (found, if found = name then replaceAt value path inner else inner))
  | _ :: _, document => document

variable {value document inner : Json} {name other : String} {path rest : List String}

theorem at?_cons : document.at? (name :: path) = (document.member? name).bind (·.at? path) :=
  rfl

theorem lookup_map_members (change : String → Json → Json) (members : List (String × Json)) :
    (members.map fun (found, inner) ↦ (found, change found inner)).lookup name =
      (members.lookup name).map (change name) := by
  induction members with
  | nil => rfl
  | cons member members ih =>
    obtain ⟨found, inner⟩ := member
    rw [List.map_cons, List.lookup_cons, List.lookup_cons, ih]
    by_cases hname : name = found
    · subst hname
      simp
    · rw [beq_false_of_ne hname]

theorem member?_replaceAt :
    (replaceAt value (name :: path) document).member? other =
      (document.member? other).map fun inner ↦
        if other = name then replaceAt value path inner else inner := by
  cases document with
  | object members =>
    exact lookup_map_members (fun found inner ↦ if found = name then replaceAt value path inner
      else inner) members
  | _ => rfl

/-- A path that leaves the replaced one at its first name. -/
theorem at?_replaceAt_of_ne (h : other ≠ name) :
    (replaceAt value (name :: path) document).at? (other :: rest) =
      document.at? (other :: rest) := by
  rw [at?_cons, at?_cons, member?_replaceAt]
  simp [h]

theorem scalarAt?_replaceAt_of_ne (h : other ≠ name) :
    (replaceAt value (name :: path) document).scalarAt? (other :: rest) =
      document.scalarAt? (other :: rest) := by
  rw [scalarAt?, scalarAt?, at?_replaceAt_of_ne h]

theorem at?_replaceAt_append (h : document.at? path = some inner) :
    (replaceAt value (path ++ rest) document).at? path = some (replaceAt value rest inner) := by
  induction path generalizing document with
  | nil =>
    obtain rfl := Option.some.inj h
    rfl
  | cons name path ih =>
    rw [at?_cons] at h
    obtain ⟨member, hmember, hinner⟩ := Option.bind_eq_some_iff.mp h
    rw [List.cons_append, at?_cons, member?_replaceAt, hmember, Option.map_some, if_pos rfl,
      Option.bind_some, ih hinner]

theorem at?_replaceAt (h : document.at? path = some inner) :
    (replaceAt value path document).at? path = some value := by
  have hrest : (replaceAt value (path ++ []) document).at? path = some (replaceAt value [] inner) :=
    at?_replaceAt_append h
  rwa [List.append_nil] at hrest

end MobileMoney.Json
