import MobileMoney.Http.Target
import MobileMoney.Proofs.Text.Lossy

/-!
# Percent-encoded texts

What is read in a path: `%` and two hexadecimal digits stand for a byte, and every other character
for its own bytes.  The encoding of a path changes nothing in that.  A text without such an escape is
read as it is, and a text with one as fewer bytes than it has.
-/

namespace MobileMoney.Http

open String (utf8EncodeChar utf8EncodeChar_ne_nil)

def hexValue? (c : Char) : Option Nat :=
  if 48 ≤ c.toNat ∧ c.toNat ≤ 57 then some (c.toNat - 48)
  else if 65 ≤ c.toNat ∧ c.toNat ≤ 70 then some (c.toNat - 55)
  else if 97 ≤ c.toNat ∧ c.toNat ≤ 102 then some (c.toNat - 87)
  else none

/-- The byte of the two hexadecimal digits that a text begins with. -/
def hexByte? : List Char → Option UInt8
  | high :: low :: _ => do return UInt8.ofNat (16 * (← hexValue? high) + (← hexValue? low))
  | _ => none

/-- The byte that a character and what follows it stand for as an escape. -/
def escape? (c : Char) (rest : List Char) : Option UInt8 :=
  if c = '%' then hexByte? rest else none

/-- Whether there is an escape somewhere. -/
def hasEscape : List Char → Bool
  | c :: rest => (escape? c rest).isSome || hasEscape rest
  | [] => false

/-- The bytes of a text in which an escape stands for a byte. -/
def percentDecode : List Char → List UInt8
  | c :: rest =>
    match escape? c rest with
    | some byte => byte :: percentDecode (rest.drop 2)
    | none => utf8EncodeChar c ++ percentDecode rest
  | [] => []
termination_by cs => cs.length
decreasing_by all_goals simp only [List.length_drop, List.length_cons]; omega

/-! ## Single characters -/

variable {c : Char} {cs rest : List Char} {byte : UInt8}

theorem percentDecode_escape (h : escape? c rest = some byte) :
    percentDecode (c :: rest) = byte :: percentDecode (rest.drop 2) := by
  rw [percentDecode, h]

theorem percentDecode_cons (h : escape? c rest = none) :
    percentDecode (c :: rest) = utf8EncodeChar c ++ percentDecode rest := by
  rw [percentDecode, h]

theorem exists_of_escape (h : escape? c rest = some byte) :
    c = '%' ∧ ∃ high low more, rest = high :: low :: more ∧
      (hexValue? high).isSome ∧ (hexValue? low).isSome := by
  unfold escape? at h
  split at h
  · next hpercent =>
    unfold hexByte? at h
    split at h
    · next high low more =>
      simp only [bind, Option.bind_eq_some_iff] at h
      obtain ⟨a, ha, b, hb, -⟩ := h
      exact ⟨hpercent, high, low, more, rfl, by simp [ha], by simp [hb]⟩
    · contradiction
  · contradiction

/-! ## Encoded bytes -/

def percentByte (byte : UInt8) : List Char :=
  ['%', hexUpper (byte.toNat / 16), hexUpper (byte.toNat % 16)]

theorem percentEncode_eq (c : Char) :
    percentEncode c = (utf8EncodeChar c).flatMap percentByte := by
  have hbytes : (String.singleton c).toUTF8.toList = utf8EncodeChar c := by
    rw [Text.toList_eq_data, Text.data_toUTF8, String.toList_singleton, List.flatMap_singleton]
  rw [percentEncode, hbytes]
  rfl

theorem hexByte?_hexUpper (byte : UInt8) (rest : List Char) :
    hexByte? (hexUpper (byte.toNat / 16) :: hexUpper (byte.toNat % 16) :: rest) = some byte := by
  have hdigits : ∀ n < 16, hexValue? (hexUpper n) = some n := by decide
  have hbyte := byte.toNat_lt
  rw [hexByte?, hdigits _ (by omega), hdigits _ (by omega)]
  change some (UInt8.ofNat (16 * (byte.toNat / 16) + byte.toNat % 16)) = some byte
  rw [Nat.div_add_mod, UInt8.ofNat_toNat]

theorem percentDecode_percentByte (byte : UInt8) (rest : List Char) :
    percentDecode (percentByte byte ++ rest) = byte :: percentDecode rest :=
  percentDecode_escape (hexByte?_hexUpper byte rest)

theorem percentDecode_flatMap_percentByte (bytes : List UInt8) (rest : List Char) :
    percentDecode (bytes.flatMap percentByte ++ rest) = bytes ++ percentDecode rest := by
  induction bytes with
  | nil => rfl
  | cons byte bytes ih =>
    rw [List.flatMap_cons, List.append_assoc, percentDecode_percentByte, ih, List.cons_append]

/-! ## Encoded texts -/

theorem percentDecode_encodePathChar (h : c ≠ '%') :
    percentDecode (encodePathChar c ++ rest) = utf8EncodeChar c ++ percentDecode rest := by
  unfold encodePathChar
  split
  · rw [percentEncode_eq, percentDecode_flatMap_percentByte]
  · exact percentDecode_cons (if_neg h)

theorem encodePathChar_cases (c : Char) :
    encodePathChar c = [c] ∨ ∃ more, encodePathChar c = '%' :: more := by
  unfold encodePathChar
  split
  · obtain ⟨b, more, hbytes⟩ := List.exists_cons_of_ne_nil (utf8EncodeChar_ne_nil (c := c))
    rw [percentEncode_eq, hbytes]
    exact .inr ⟨_, rfl⟩
  · exact .inl rfl

theorem encodePathChar_of_hexValue (h : (hexValue? c).isSome) : encodePathChar c = [c] := by
  have hall : ∀ n < 128, (hexValue? (Char.ofNat n)).isSome →
      encodePathChar (Char.ofNat n) = [Char.ofNat n] := by
    decide
  have hascii : c.toNat < 128 := by
    refine Nat.lt_of_not_le fun hlarge ↦ ?_
    rw [hexValue?, if_neg (by omega), if_neg (by omega), if_neg (by omega)] at h
    contradiction
  have hc := hall c.toNat hascii
  rw [Char.ofNat_toNat] at hc
  exact hc h

theorem hexByte?_percent (rest : List Char) : hexByte? ('%' :: rest) = none := by
  cases rest <;> rfl

/-- Encoding makes no escape. -/
theorem hexByte?_flatMap_encode (h : hexByte? rest = none) :
    hexByte? (rest.flatMap encodePathChar) = none := by
  match rest with
  | [] => rfl
  | [high] =>
    obtain hhigh | ⟨more, hhigh⟩ := encodePathChar_cases high
    · rw [List.flatMap_singleton, hhigh]
      rfl
    · rw [List.flatMap_singleton, hhigh, hexByte?_percent]
  | high :: low :: rest =>
    rw [List.flatMap_cons, List.flatMap_cons]
    obtain hhigh | ⟨more, hhigh⟩ := encodePathChar_cases high
    · obtain hlow | ⟨more, hlow⟩ := encodePathChar_cases low
      · rw [hhigh, hlow]
        exact h
      · rw [hhigh, hlow]
        simp [hexByte?, show hexValue? '%' = none from rfl]
    · rw [hhigh, List.cons_append, hexByte?_percent]

/-- What is read in an encoded text is what is read in the text. -/
theorem percentDecode_flatMap_encode (cs : List Char) :
    percentDecode (cs.flatMap encodePathChar) = percentDecode cs := by
  have hpercent : encodePathChar '%' = ['%'] := by decide
  fun_induction percentDecode cs with
  | case1 c rest byte hescape ih =>
    obtain ⟨rfl, high, low, more, rfl, hhigh, hlow⟩ := exists_of_escape hescape
    have hsame : escape? '%' (high :: low :: more.flatMap encodePathChar) = some byte := hescape
    rw [List.flatMap_cons, List.flatMap_cons, List.flatMap_cons, hpercent,
      encodePathChar_of_hexValue hhigh, encodePathChar_of_hexValue hlow]
    exact (percentDecode_escape hsame).trans (congrArg (byte :: ·) ih)
  | case2 c rest hnone ih =>
    rw [List.flatMap_cons, ← ih]
    by_cases hc : c = '%'
    · rw [hc, escape?, if_pos rfl] at hnone
      rw [hc, hpercent]
      exact percentDecode_cons ((if_pos rfl).trans (hexByte?_flatMap_encode hnone))
    · exact percentDecode_encodePathChar hc
  | case3 => rw [List.flatMap_nil, percentDecode]

/-! ## Texts without escapes -/

theorem percentDecode_of_not_hasEscape (h : hasEscape cs = false) :
    percentDecode cs = cs.flatMap utf8EncodeChar := by
  induction cs with
  | nil => rw [percentDecode, List.flatMap_nil]
  | cons c rest ih =>
    obtain ⟨hescape, hrest⟩ := Bool.or_eq_false_iff.mp h
    rw [percentDecode_cons (by simpa using hescape), ih hrest, List.flatMap_cons]

/-- An escape has two characters more than its first. -/
theorem length_drop_lt_of_escape (h : escape? c rest = some byte) :
    ((rest.drop 2).flatMap utf8EncodeChar).length + 2 ≤ (rest.flatMap utf8EncodeChar).length := by
  obtain ⟨-, high, low, more, rfl, -, -⟩ := exists_of_escape h
  have hhigh := List.length_pos_iff.mpr (utf8EncodeChar_ne_nil (c := high))
  have hlow := List.length_pos_iff.mpr (utf8EncodeChar_ne_nil (c := low))
  simp only [List.drop_succ_cons, List.drop_zero, List.flatMap_cons, List.length_append]
  omega

theorem length_percentDecode_le (cs : List Char) :
    (percentDecode cs).length ≤ (cs.flatMap utf8EncodeChar).length := by
  fun_induction percentDecode cs with
  | case1 c rest byte hescape ih =>
    have hdrop := length_drop_lt_of_escape hescape
    simp only [List.flatMap_cons, List.length_append, List.length_cons]
    omega
  | case2 c rest hnone ih =>
    simp only [List.flatMap_cons, List.length_append]
    omega
  | case3 => exact Nat.le_refl _

theorem length_percentDecode_lt (h : hasEscape cs = true) :
    (percentDecode cs).length < (cs.flatMap utf8EncodeChar).length := by
  induction cs with
  | nil => contradiction
  | cons c rest ih =>
    rw [List.flatMap_cons, List.length_append]
    cases hescape : escape? c rest with
    | some byte =>
      have hdrop := length_drop_lt_of_escape hescape
      have hle := length_percentDecode_le (rest.drop 2)
      rw [percentDecode_escape hescape, List.length_cons]
      omega
    | none =>
      have hrest : hasEscape rest = true := by simpa [hasEscape, hescape] using h
      have hlt := ih hrest
      rw [percentDecode_cons hescape, List.length_append]
      omega

theorem eq_or_length_lt_of_sublist {ds : List Char} (h : cs.Sublist ds) :
    cs = ds ∨ (cs.flatMap utf8EncodeChar).length < (ds.flatMap utf8EncodeChar).length := by
  induction h with
  | slnil => exact .inl rfl
  | cons d _ ih =>
    have hd := List.length_pos_iff.mpr (utf8EncodeChar_ne_nil (c := d))
    rw [List.flatMap_cons, List.length_append]
    right
    obtain rfl | hlt := ih <;> omega
  | cons_cons d _ ih =>
    simp only [List.flatMap_cons, List.length_append]
    exact ih.imp (congrArg (d :: ·)) fun hlt ↦ by omega

/-- A part of a text that is read as the text is the whole of it, and has no escape. -/
theorem eq_of_percentDecode_eq {ds : List Char} (hsub : cs.Sublist ds)
    (h : percentDecode cs = ds.flatMap utf8EncodeChar) : cs = ds ∧ hasEscape ds = false := by
  have hle := length_percentDecode_le cs
  rw [h] at hle
  obtain rfl | hlt := eq_or_length_lt_of_sublist hsub
  · refine ⟨rfl, ?_⟩
    rw [← Bool.not_eq_true]
    intro hescape
    have hlt := length_percentDecode_lt hescape
    rw [h] at hlt
    exact Nat.lt_irrefl _ hlt
  · omega

/-- Without escapes there are no encoded dots. -/
theorem plainDots_of_not_hasEscape (h : hasEscape cs = false) : plainDots cs = cs := by
  fun_induction plainDots cs with
  | case1 c rest hdot ih =>
    have hbyte : (hexByte? ('2' :: c :: rest)).isSome := by
      obtain rfl | rfl := hdot <;> rfl
    rw [hasEscape, escape?, if_pos rfl, hbyte] at h
    contradiction
  | case2 c rest hdot ih =>
    simp only [hasEscape, Bool.or_eq_false_iff] at h
    rw [ih h.2.2.2]
  | case3 c rest hcons ih =>
    rw [ih (Bool.or_eq_false_iff.mp h).2]
  | case4 => rfl

end MobileMoney.Http
