import MobileMoney.Text.Lossy

/-!
# Lossless readings

Bytes that are UTF-8 are read without a replacement, and can be had back from the text.
-/

namespace MobileMoney.Text

/-- The bytes of a character are read as that character, whatever follows them. -/
theorem firstChar?_utf8EncodeChar_append (c : Char) (rest : List UInt8) :
    firstChar? (String.utf8EncodeChar c ++ rest) = some c := by
  have hlength : (String.utf8EncodeChar c).length ≤ 4 := by
    rw [String.length_utf8EncodeChar]
    exact c.utf8Size_le_four
  rw [firstChar?, List.take_append, List.take_of_length_le hlength, List.toByteArray_append]
  exact ByteArray.utf8DecodeChar?_utf8EncodeChar_append

theorem lossyChars_utf8EncodeChar_append (c : Char) (rest : List UInt8) :
    lossyChars (String.utf8EncodeChar c ++ rest) = c :: lossyChars rest := by
  have hfirst := firstChar?_utf8EncodeChar_append c rest
  have hlength := String.length_utf8EncodeChar c
  obtain ⟨b, more, hbytes⟩ := List.exists_cons_of_ne_nil (String.utf8EncodeChar_ne_nil (c := c))
  rw [hbytes, List.cons_append] at hfirst ⊢
  rw [hbytes, List.length_cons] at hlength
  have hdrop : (more ++ rest).drop (c.utf8Size - 1) = rest :=
    List.drop_left' (by omega)
  rw [lossyChars, hfirst]
  dsimp only
  rw [hdrop]

theorem lossyChars_flatMap (cs : List Char) :
    lossyChars (cs.flatMap String.utf8EncodeChar) = cs := by
  induction cs with
  | nil => rw [List.flatMap_nil, lossyChars]
  | cons c cs ih => rw [List.flatMap_cons, lossyChars_utf8EncodeChar_append, ih]

theorem toList_loop_eq (bytes : ByteArray) (i : Nat) (read : List UInt8) :
    ByteArray.toList.loop bytes i read = read.reverse ++ bytes.data.toList.drop i := by
  fun_induction ByteArray.toList.loop bytes i read with
  | case1 i read hi ih =>
    have hlength : i < bytes.data.toList.length := by simpa using hi
    rw [ih, List.drop_eq_getElem_cons hlength]
    simp [ByteArray.get!, hi]
  | case2 i read hi =>
    rw [List.drop_eq_nil_of_le (by simpa using Nat.le_of_not_lt hi), List.append_nil]

theorem toList_eq_data (bytes : ByteArray) : bytes.toList = bytes.data.toList := by
  rw [ByteArray.toList, toList_loop_eq, List.reverse_nil, List.nil_append, List.drop_zero]

/-- The bytes of a text are those of its characters. -/
theorem data_toUTF8 (s : String) :
    s.toUTF8.data.toList = s.toList.flatMap String.utf8EncodeChar := by
  rw [String.toUTF8_eq_toByteArray, ← String.utf8Encode_toList, List.utf8Encode,
    List.data_toByteArray]

theorem lossy_toUTF8 (s : String) : lossy s.toUTF8 = s := by
  rw [lossy, data_toUTF8, lossyChars_flatMap, String.ofList_toList]

theorem toUTF8_of_fromUTF8? {bytes : ByteArray} {s : String}
    (h : String.fromUTF8? bytes = some s) : s.toUTF8 = bytes := by
  by_cases hvalid : bytes.IsValidUTF8
  · rw [String.fromUTF8?, dif_pos hvalid] at h
    obtain rfl := Option.some.inj h
    rfl
  · rw [String.fromUTF8?, dif_neg hvalid] at h
    contradiction

/-- Nothing is replaced in bytes that are UTF-8. -/
theorem lossy_of_fromUTF8? {bytes : ByteArray} {s : String}
    (h : String.fromUTF8? bytes = some s) : lossy bytes = s := by
  rw [← toUTF8_of_fromUTF8? h, lossy_toUTF8]

end MobileMoney.Text
