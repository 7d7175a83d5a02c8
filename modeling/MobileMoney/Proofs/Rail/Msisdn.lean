import Mathlib.Data.List.Infix
import MobileMoney.Airtel.Account
import MobileMoney.Proofs.Text.Letters

/-!
# Spellings of a subscriber number

A subscriber has nine digits.  They may be given after a zero, after the calling code, or bare if
they begin with neither of these, with anything that is no digit in between.  Every such spelling is
brought into the form with the calling code, and nothing else is accepted.
-/

namespace MobileMoney

/-- Digits take one byte each. -/
theorem Text.utf8ByteSize_ofList_of_isDigit {cs : List Char} (h : ∀ c ∈ cs, c.isDigit = true) :
    (String.ofList cs).utf8ByteSize = cs.length := by
  apply utf8ByteSize_ofList
  intro c hc
  have hrange := toNat_of_isDigit (h c hc)
  omega

namespace Msisdn

/-- Three digits, of which the first is not a zero. -/
structure IsCallingCode (code : String) : Prop where
  length_eq : code.toList.length = 3
  isDigit : ∀ c ∈ code.toList, c.isDigit = true
  head_ne : code.toList.head? ≠ some '0'

/-- Digits that spell a subscriber number: ten after a zero, twelve after the calling code, or nine
that begin with neither. -/
def IsSpelling (code digits : List Char) : Prop :=
  (digits.length = 10 ∧ digits.head? = some '0') ∨
    (digits.length = 12 ∧ code <+: digits) ∨
    (digits.length = 9 ∧ digits.head? ≠ some '0' ∧ ¬ code <+: digits)

/-- The last nine digits. -/
def subscriber (digits : List Char) : List Char :=
  digits.drop (digits.length - 9)

/-- The subscriber number in a text, as far as there are digits. -/
def subscriberOf (phone : String) : String :=
  String.ofList (subscriber (digitsOf phone))

/-- Twelve digits: the calling code and the subscriber number in a text. -/
structure IsNormalForm (code phone number : String) : Prop where
  length_eq : number.length = 12
  isDigit : ∀ c ∈ number.toList, c.isDigit = true
  begins : code.toList <+: number.toList
  eq_append : number = code ++ subscriberOf phone

theorem isDigit_of_mem_digitsOf {phone : String} : ∀ c ∈ digitsOf phone, c.isDigit = true :=
  fun _ hc ↦ List.of_mem_filter hc

theorem subscriber_append {before digits : List Char} (h : digits.length = 9) :
    subscriber (before ++ digits) = digits := by
  rw [subscriber, List.length_append, h, Nat.add_sub_cancel, List.drop_left]

section

variable {code : String} (hcode : IsCallingCode code) {digits : List Char}

include hcode

/-- The calling code comes before what is left of the digits when a zero or the calling code is
taken away, and a spelling is what has nine digits left. -/
theorem exists_rest (digits : List Char) :
    ∃ before rest, digits = before ++ rest ∧
      withCallingCode code.toList digits = code.toList ++ rest ∧
      (IsSpelling code.toList digits ↔ rest.length = 9) := by
  have hlength := hcode.length_eq
  obtain ⟨c, more, hcons⟩ : ∃ c more, code.toList = c :: more :=
    List.exists_cons_of_ne_nil (List.ne_nil_of_length_pos (by omega))
  have hc : c ≠ '0' := fun heq ↦ hcode.head_ne (by rw [hcons, heq]; rfl)
  by_cases hzero : digits.head? = some '0'
  · obtain ⟨rest, rfl⟩ := List.head?_eq_some_iff.mp hzero
    have hprefix : ¬ code.toList <+: '0' :: rest := by
      rw [hcons, List.cons_prefix_cons]
      exact fun h ↦ hc h.1
    refine ⟨['0'], rest, rfl, rfl, ?_⟩
    simp [IsSpelling, hprefix]
  · have hplain : withCallingCode code.toList digits =
        if code.toList.isPrefixOf digits then digits else code.toList ++ digits := by
      unfold withCallingCode
      split
      · exact absurd rfl hzero
      · rfl
    by_cases hprefix : code.toList <+: digits
    · rw [if_pos (List.isPrefixOf_iff_prefix.mpr hprefix)] at hplain
      obtain ⟨rest, rfl⟩ := hprefix
      refine ⟨code.toList, rest, rfl, hplain, ?_⟩
      simp only [IsSpelling, hzero, List.prefix_append, List.length_append, hlength, and_false,
        false_or, and_true, not_true_eq_false, or_false]
      omega
    · rw [if_neg (mt List.isPrefixOf_iff_prefix.mp hprefix)] at hplain
      refine ⟨[], digits, rfl, hplain, ?_⟩
      simp [IsSpelling, hzero, hprefix]

theorem withCallingCode_length_iff :
    (withCallingCode code.toList digits).length = length ↔ IsSpelling code.toList digits := by
  obtain ⟨before, rest, -, hform, hspelling⟩ := exists_rest hcode digits
  rw [hform, List.length_append, hcode.length_eq, hspelling, length]
  omega

theorem withCallingCode_of_isSpelling (h : IsSpelling code.toList digits) :
    withCallingCode code.toList digits = code.toList ++ subscriber digits := by
  obtain ⟨before, rest, rfl, hform, hspelling⟩ := exists_rest hcode digits
  rw [hform, subscriber_append (hspelling.mp h)]

theorem IsSpelling.length_subscriber (h : IsSpelling code.toList digits) :
    (subscriber digits).length = 9 := by
  obtain ⟨before, rest, rfl, -, hspelling⟩ := exists_rest hcode digits
  rw [subscriber_append (hspelling.mp h), hspelling.mp h]

/-- The form with the calling code is a spelling itself. -/
theorem isSpelling_append {rest : List Char} (h : rest.length = 9) :
    IsSpelling code.toList (code.toList ++ rest) := by
  refine .inr (.inl ⟨?_, List.prefix_append _ _⟩)
  rw [List.length_append, hcode.length_eq, h]

theorem isDigit_of_mem_withCallingCode (hdigits : ∀ c ∈ digits, c.isDigit = true) :
    ∀ c ∈ withCallingCode code.toList digits, c.isDigit = true := by
  obtain ⟨before, rest, rfl, hform, -⟩ := exists_rest hcode digits
  rw [hform]
  exact List.forall_mem_append.mpr ⟨hcode.isDigit, (List.forall_mem_append.mp hdigits).2⟩

/-! ## Normal forms -/

variable {provider : Provider} {phone : String}

theorem normalize_of_isSpelling (h : IsSpelling code.toList (digitsOf phone)) :
    normalize provider phone code = .ok (code ++ subscriberOf phone) := by
  have hne : ¬ (digitsOf phone).isEmpty = true := by
    rw [List.isEmpty_iff]
    intro hnil
    have hlength := h.length_subscriber hcode
    rw [hnil] at hlength
    contradiction
  have hform : String.ofList (withCallingCode code.toList (digitsOf phone)) =
      code ++ subscriberOf phone := by
    rw [withCallingCode_of_isSpelling hcode h, String.ofList_append, String.ofList_toList,
      subscriberOf]
  have hsize : (String.ofList (withCallingCode code.toList (digitsOf phone))).utf8ByteSize =
      length := by
    rw [Text.utf8ByteSize_ofList_of_isDigit
      (isDigit_of_mem_withCallingCode hcode isDigit_of_mem_digitsOf)]
    exact (withCallingCode_length_iff hcode).mpr h
  rw [normalize]
  simp only
  rw [if_neg hne, if_pos hsize, hform]

theorem normalize_of_not_isSpelling (h : ¬ IsSpelling code.toList (digitsOf phone)) :
    ∃ message, normalize provider phone code = .error (.invalid provider message "phone") := by
  have hsize : ¬ (String.ofList (withCallingCode code.toList (digitsOf phone))).utf8ByteSize =
      length := by
    rw [Text.utf8ByteSize_ofList_of_isDigit
      (isDigit_of_mem_withCallingCode hcode isDigit_of_mem_digitsOf)]
    exact mt (withCallingCode_length_iff hcode).mp h
  rw [normalize]
  simp only
  by_cases hempty : (digitsOf phone).isEmpty = true
  · exact ⟨_, if_pos hempty⟩
  · rw [if_neg hempty, if_neg hsize]
    exact ⟨_, rfl⟩

theorem isNormalForm_append (h : IsSpelling code.toList (digitsOf phone)) :
    IsNormalForm code phone (code ++ subscriberOf phone) where
  length_eq := by
    rw [String.length_append, ← String.length_toList, hcode.length_eq, subscriberOf,
      String.length_ofList, h.length_subscriber hcode]
  isDigit := by
    rw [String.toList_append, subscriberOf, String.toList_ofList, List.forall_mem_append]
    exact ⟨hcode.isDigit, fun c hc ↦ isDigit_of_mem_digitsOf c (List.mem_of_mem_drop hc)⟩
  begins := by
    rw [String.toList_append]
    exact List.prefix_append _ _
  eq_append := rfl

theorem subscriberOf_normal (h : IsSpelling code.toList (digitsOf phone)) :
    IsSpelling code.toList (digitsOf (code ++ subscriberOf phone)) ∧
      subscriberOf (code ++ subscriberOf phone) = subscriberOf phone := by
  have hlength := h.length_subscriber hcode
  have hdigits : digitsOf (code ++ subscriberOf phone) =
      code.toList ++ subscriber (digitsOf phone) := by
    have hsubscriber : ∀ c ∈ subscriber (digitsOf phone), c.isDigit = true :=
      fun c hc ↦ isDigit_of_mem_digitsOf c (List.mem_of_mem_drop hc)
    rw [digitsOf, subscriberOf, String.toList_append, String.toList_ofList, List.filter_eq_self]
    exact List.forall_mem_append.mpr ⟨hcode.isDigit, hsubscriber⟩
  constructor
  · rw [hdigits]
    exact isSpelling_append hcode hlength
  · rw [subscriberOf, hdigits, subscriber_append hlength, subscriberOf]

end

theorem withoutCallingCode_append (code subscriber : String) :
    withoutCallingCode (code ++ subscriber) code = subscriber := by
  have hprefix : code.toList.isPrefixOf (code ++ subscriber).toList = true := by
    rw [String.toList_append]
    exact List.isPrefixOf_iff_prefix.mpr (List.prefix_append _ _)
  rw [withoutCallingCode, if_pos hprefix, String.toList_append, List.drop_left, String.ofList_toList]

/-- **Numbers have a normal form.**  A text is accepted exactly if its digits spell a subscriber
number, and becomes the calling code and the last nine digits, whatever the spelling.  The normal
form is its own normal form, and Airtel Money is sent the nine digits of it. -/
theorem normalize_spells_subscriber {code : String} (hcode : IsCallingCode code)
    (provider : Provider) (phone : String) :
    (∀ number, normalize provider phone code = .ok number ↔
      IsSpelling code.toList (digitsOf phone) ∧ number = code ++ subscriberOf phone) ∧
    (¬ IsSpelling code.toList (digitsOf phone) →
      ∃ message, normalize provider phone code = .error (.invalid provider message "phone")) ∧
    (∀ other, IsSpelling code.toList (digitsOf phone) → IsSpelling code.toList (digitsOf other) →
      (normalize provider phone code = normalize provider other code ↔
        subscriberOf phone = subscriberOf other)) ∧
    ∀ number, normalize provider phone code = .ok number →
      normalize provider number code = .ok number ∧ (subscriberOf phone).length = 9 ∧
      ∀ account : Airtel.Account, account.market.callingCode = code →
        account.localNumber number = subscriberOf phone := by
  have hok (number : String) : normalize provider phone code = .ok number ↔
      IsSpelling code.toList (digitsOf phone) ∧ number = code ++ subscriberOf phone := by
    by_cases h : IsSpelling code.toList (digitsOf phone)
    · rw [normalize_of_isSpelling hcode h, Except.ok.injEq]
      exact ⟨fun heq ↦ ⟨h, heq.symm⟩, fun heq ↦ heq.2.symm⟩
    · obtain ⟨message, hrefused⟩ : ∃ message,
          normalize provider phone code = .error (.invalid provider message "phone") :=
        normalize_of_not_isSpelling hcode h
      simp [hrefused, h]
  refine ⟨hok, normalize_of_not_isSpelling hcode, fun other h hother ↦ ?_, fun number hnumber ↦ ?_⟩
  · rw [normalize_of_isSpelling hcode h, normalize_of_isSpelling hcode hother, Except.ok.injEq,
      String.append_right_inj]
  · obtain ⟨h, rfl⟩ := (hok number).mp hnumber
    obtain ⟨hagain, hsame⟩ := subscriberOf_normal hcode h
    refine ⟨?_, ?_, ?_⟩
    · rw [normalize_of_isSpelling hcode hagain, hsame]
    · rw [subscriberOf, String.length_ofList, h.length_subscriber hcode]
    · rintro account rfl
      exact withoutCallingCode_append _ _

theorem isCallingCode_kenya : IsCallingCode "254" where
  length_eq := rfl
  isDigit := List.all_eq_true.mp (by decide)
  head_ne := by decide

/-- A number with its calling code and separators is the number after a zero. -/
theorem normalize_spells_subscriber_kenya :
    normalize .mpesa "+254 712 345-678" "254" = normalize .mpesa "0712345678" "254" ∧
      normalize .mpesa "254712345678" "254" = .ok "254712345678" := by
  obtain ⟨hok, -, hsame, hagain⟩ :=
    normalize_spells_subscriber isCallingCode_kenya .mpesa "+254 712 345-678"
  have hspelling : IsSpelling "254".toList (digitsOf "+254 712 345-678") :=
    .inr (.inl ⟨by decide, by decide⟩)
  have hother : IsSpelling "254".toList (digitsOf "0712345678") :=
    .inl ⟨by decide, by decide⟩
  refine ⟨(hsame _ hspelling hother).mpr (by decide), (hagain "254712345678" ?_).1⟩
  exact (hok _).mpr ⟨hspelling, by decide⟩

end Msisdn

end MobileMoney
