import MobileMoney.Proofs.Text.Trimming

/-!
# Letters and digits

The letters and digits of ASCII by their numbers.  None of them is blank, in either case, and the
two cases are 32 apart.
-/

namespace MobileMoney.Text

variable {c : Char}

theorem toNat_of_isUpper (h : c.isUpper = true) : 65 ≤ c.toNat ∧ c.toNat ≤ 90 := by
  have hbounds : 'A'.val ≤ c.val ∧ c.val ≤ 'Z'.val := of_decide_eq_true h
  exact ⟨UInt32.le_iff_toNat_le.mp hbounds.1, UInt32.le_iff_toNat_le.mp hbounds.2⟩

theorem toNat_of_isLower (h : c.isLower = true) : 97 ≤ c.toNat ∧ c.toNat ≤ 122 := by
  have hbounds := Bool.and_eq_true_iff.mp h
  exact ⟨UInt32.le_iff_toNat_le.mp (of_decide_eq_true hbounds.1),
    UInt32.le_iff_toNat_le.mp (of_decide_eq_true hbounds.2)⟩

theorem toNat_of_isDigit (h : c.isDigit = true) : 48 ≤ c.toNat ∧ c.toNat ≤ 57 := by
  have hbounds := Bool.and_eq_true_iff.mp h
  exact ⟨UInt32.le_iff_toNat_le.mp (of_decide_eq_true hbounds.1),
    UInt32.le_iff_toNat_le.mp (of_decide_eq_true hbounds.2)⟩

theorem isBlank_of_isUpper (h : c.isUpper = true) : isBlank c = false := by
  have hrange := toNat_of_isUpper h
  exact isBlank_of_printable (by omega) (by omega)

theorem isBlank_of_isLower (h : c.isLower = true) : isBlank c = false := by
  have hrange := toNat_of_isLower h
  exact isBlank_of_printable (by omega) (by omega)

theorem isBlank_of_isDigit (h : c.isDigit = true) : isBlank c = false := by
  have hrange := toNat_of_isDigit h
  exact isBlank_of_printable (by omega) (by omega)

theorem isBlank_of_isAlphanum (h : c.isAlphanum = true) : isBlank c = false := by
  obtain halpha | hdigit := Bool.or_eq_true_iff.mp h
  · obtain hupper | hlower := Bool.or_eq_true_iff.mp halpha
    · exact isBlank_of_isUpper hupper
    · exact isBlank_of_isLower hlower
  · exact isBlank_of_isDigit hdigit

theorem isBlank_of_isBlank_toLower (h : isBlank c.toLower = false) : isBlank c = false := by
  by_cases hupper : c.isUpper = true
  · exact isBlank_of_isUpper hupper
  · have hsame : c.toLower = c := dif_neg fun hbounds ↦ hupper (decide_eq_true hbounds)
    rwa [hsame] at h

theorem toUpper_eq_self (h : c.isLower = false) : c.toUpper = c :=
  dif_neg fun hbounds ↦ Bool.false_ne_true (h.symm.trans
    (Bool.and_eq_true_iff.mpr ⟨decide_eq_true hbounds.1, decide_eq_true hbounds.2⟩))

theorem toNat_toUpper (h : c.isLower = true) : c.toUpper.toNat = c.toNat - 32 := by
  have hbounds : 'a'.val ≤ c.val ∧ c.val ≤ 'z'.val :=
    (Bool.and_eq_true_iff.mp h).imp of_decide_eq_true of_decide_eq_true
  have hval : c.toUpper.val = c.val + ('A'.val - 'a'.val) := by
    delta Char.toUpper
    rw [dif_pos hbounds]
  have hrange := toNat_of_isLower h
  calc
    c.toUpper.toNat = (c.val + ('A'.val - 'a'.val)).toNat := congrArg UInt32.toNat hval
    _ = (c.toNat + 4294967264) % 4294967296 := UInt32.toNat_add _ _
    _ = c.toNat - 32 := by omega

/-- Characters of ASCII take one byte each. -/
theorem utf8ByteSize_ofList {cs : List Char} (h : ∀ c ∈ cs, c.toNat ≤ 127) :
    (String.ofList cs).utf8ByteSize = cs.length := by
  induction cs with
  | nil => rfl
  | cons c cs ih =>
    rw [List.forall_mem_cons] at h
    have hascii : c.val ≤ 127 := UInt32.le_iff_toNat_le.mpr h.1
    rw [String.ofList_cons, String.utf8ByteSize_append, String.utf8ByteSize_singleton, ih h.2,
      Char.utf8Size_eq_one_iff.mpr hascii, List.length_cons, Nat.add_comm]

end MobileMoney.Text
