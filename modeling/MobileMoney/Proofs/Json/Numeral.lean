import Mathlib.Data.List.TakeWhile
import MobileMoney.Json.Reader
import MobileMoney.Json.Writer

/-!
# Whole numbers in documents

The digits of a number below `2 ^ 64` are one word of a text, and they are read as that number.
-/

namespace MobileMoney

theorem Decimal.head?_digits {n : Nat} (h : 0 < n) : ∀ c ∈ (digits n).head?, c ≠ '0' := by
  induction n using Nat.strongRecOn with
  | ind n ih =>
    rw [digits]
    by_cases hsmall : n < 10
    · rw [Nat.toDigits_of_lt_base hsmall]
      rintro _ ⟨⟩
      exact mt Nat.digitChar_eq_zero.mp (Nat.ne_of_gt h)
    · rw [Nat.toDigits_of_base_le (by decide) (by omega), List.head?_append]
      obtain ⟨c, rest, hcons⟩ := List.exists_cons_of_ne_nil (digits_ne_nil (n / 10))
      have hih := ih (n / 10) (by omega) (by omega)
      rw [digits] at hcons hih
      rw [hcons] at hih ⊢
      exact hih

namespace Json

open Decimal

/-! ## Literals -/

theorem Literal.isWhole_digits (n : Nat) : isWhole (digits n) = true := by
  by_cases hzero : n = 0
  · rw [hzero]
    rfl
  · have hhead := head?_digits (Nat.pos_of_ne_zero hzero)
    obtain ⟨c, rest, hcons⟩ := List.exists_cons_of_ne_nil (digits_ne_nil n)
    rw [hcons] at hhead ⊢
    have hc : c ≠ '0' := hhead c rfl
    unfold isWhole
    split
    · contradiction
    · rfl
    · next heq =>
      obtain ⟨rfl, -⟩ := List.cons.inj heq
      exact bne_iff_ne.mpr hc

theorem Literal.read?_digits (n : Nat) :
    read? (digits n) = some ⟨false, digits n, none, none⟩ := by
  have hdigit : ∀ c ∈ digits n, c.isDigit = true := fun _ ↦ isDigit_of_mem_digits
  have hspan : spanDigits (digits n) = (digits n, []) := by
    rw [spanDigits, List.takeWhile_eq_self_iff.mpr hdigit, List.dropWhile_eq_nil_iff.mpr hdigit]
  have hwhole := isWhole_digits n
  obtain ⟨c, rest, hcons⟩ := List.exists_cons_of_ne_nil (digits_ne_nil n)
  rw [hcons] at hdigit hspan hwhole ⊢
  have hminus : c ≠ '-' := ne_of_isDigit (hdigit c List.mem_cons_self) rfl
  simp [read?, hminus, hspan, hwhole, readExponent?]

theorem Literal.number?_digits {n : Nat} (h : n < UInt64.size) :
    number? ⟨false, digits n, none, none⟩ = some (.integer n) := by
  have hinteger : integer? ⟨false, digits n, none, none⟩ = some (n : Int) := by
    simp only [integer?, Option.isSome_none, Bool.or_self, Bool.false_eq_true, if_false,
      valueOf_digits]
    exact if_pos h
  rw [number?, hinteger]

/-! ## Words -/

/-- The characters of a word are kept until it ends. -/
theorem foldlM_step?_word {cs : List Char} (h : ∀ c ∈ cs, Lexer.isWordChar c = true)
    (tokens : List Token) (reversed : List Char) :
    cs.foldlM Lexer.step? ⟨tokens, .word reversed⟩ =
      some ⟨tokens, .word (cs.reverse ++ reversed)⟩ := by
  induction cs generalizing reversed with
  | nil => rfl
  | cons c rest ih =>
    rw [List.forall_mem_cons] at h
    rw [List.foldlM_cons, Lexer.step?]
    simp only [h.1, if_true]
    rw [Option.bind_eq_bind, Option.bind_some, ih h.2, List.reverse_cons, List.append_assoc]
    rfl

/-- A text of one word is one token. -/
theorem tokens?_word {word : List Char} (hne : word ≠ [])
    (hword : ∀ c ∈ word, Lexer.isWordChar c = true)
    (hspace : ∀ c ∈ word, Lexer.isSpace c = false) :
    tokens? word = (Lexer.wordToken? word).map fun token ↦ [token] := by
  obtain ⟨c, rest, rfl⟩ := List.exists_cons_of_ne_nil hne
  rw [List.forall_mem_cons] at hword hspace
  have hstart : Lexer.step? .start c = some ⟨[], .word [c]⟩ := by
    simp [Lexer.step?, Lexer.start, Lexer.begin?, hword.1, hspace.1]
  rw [tokens?, List.foldlM_cons, hstart]
  simp only [Option.bind_eq_bind, Option.bind_some, foldlM_step?_word hword.2]
  rw [Lexer.flush?]
  simp only [List.reverse_append, List.reverse_reverse, List.reverse_singleton,
    List.singleton_append]
  cases Lexer.wordToken? (c :: rest) <;> rfl

theorem wordToken?_digits {n : Nat} (h : n < UInt64.size) :
    Lexer.wordToken? (digits n) = some (.leaf (.nat n)) := by
  have hdigit : ∀ c ∈ digits n, c.isDigit = true := fun _ ↦ isDigit_of_mem_digits
  have hname {c : Char} (rest : List Char) (hc : c.isDigit = false) : digits n ≠ c :: rest :=
    fun heq ↦ ne_of_isDigit (hdigit c (heq ▸ List.mem_cons_self)) hc rfl
  rw [Lexer.wordToken?, if_neg (hname _ (by decide)), if_neg (hname _ (by decide)),
    if_neg (hname _ (by decide)), Literal.read?_digits, Option.map_some, Literal.number?_digits h]
  rfl

/-- A whole number is read from its digits, as long as it fits 64 bits. -/
theorem parse?_compact_nat {n : Nat} (h : n < UInt64.size) :
    parse? (nat n).compact.toList = some (nat n) := by
  have hdigit : ∀ c ∈ digits n, c.isDigit = true := fun _ ↦ isDigit_of_mem_digits
  have hword : ∀ c ∈ digits n, Lexer.isWordChar c = true := by
    intro c hc
    have halphanum : c.isAlphanum = true := Bool.or_eq_true_iff.mpr (.inr (hdigit c hc))
    simp [Lexer.isWordChar, halphanum]
  have hspace : ∀ c ∈ digits n, Lexer.isSpace c = false := by
    intro c hc
    have hne (d : Char) (hd : d.isDigit = false) : c ≠ d := ne_of_isDigit (hdigit c hc) hd
    simp [Lexer.isSpace, hne ' ' rfl, hne '\t' rfl, hne '\n' rfl, hne '\x0d' rfl]
  have htokens : tokens? (nat n).compact.toList = some [.leaf (.nat n)] := by
    rw [compact, String.toList_ofList]
    have hwrite : (nat n).writeCompact = digits n := by
      rw [nat, writeCompact, Number.write]
      rfl
    rw [hwrite, tokens?_word (digits_ne_nil n) hword hspace, wordToken?_digits h, Option.map_some]
  rw [parse?, htokens]
  rfl

end Json

end MobileMoney
