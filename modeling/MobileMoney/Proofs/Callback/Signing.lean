import MobileMoney.Proofs.Account.Requests
import MobileMoney.Proofs.Callback.Authentication
import MobileMoney.Proofs.Text.Letters

/-!
# Signing and checking

A digest is recognized in every spelling: with its label or bare, in small or capital digits, and
with blanks around it.  A signature is made under a secret as it is and checked under what is left
of the secret when it is trimmed, so what is signed under a padded secret is refused under it.
-/

namespace MobileMoney

/-! ## Comparing bytes -/

theorem byteArray_toList_loop (bytes : ByteArray) (i : Nat) (reversed : List UInt8) :
    ByteArray.toList.loop bytes i reversed = reversed.reverse ++ bytes.data.toList.drop i := by
  fun_induction ByteArray.toList.loop bytes i reversed with
  | case1 i reversed hlt ih =>
    have hbyte : bytes.data.toList.drop i = bytes.get! i :: bytes.data.toList.drop (i + 1) := by
      rw [List.drop_eq_getElem_cons (by simpa using hlt), Array.getElem_toList]
      simp [ByteArray.get!, hlt]
    rw [ih, hbyte, List.reverse_cons, List.append_assoc, List.singleton_append]
  | case2 i reversed hge =>
    rw [List.drop_of_length_le (by simpa using hge), List.append_nil]

theorem toUTF8_toList_inj {s t : String} : s.toUTF8.toList = t.toUTF8.toList ↔ s = t := by
  have hlist (bytes : ByteArray) : bytes.toList = bytes.data.toList :=
    byteArray_toList_loop bytes 0 []
  rw [hlist, hlist, Array.toList_inj, ← ByteArray.ext_iff]
  exact String.toByteArray_inj

theorem foldl_or_eq_zero_iff (seen : UInt8) (bytes : List UInt8) :
    bytes.foldl (· ||| ·) seen = 0 ↔ seen = 0 ∧ ∀ byte ∈ bytes, byte = 0 := by
  induction bytes generalizing seen with
  | nil => simp
  | cons byte rest ih =>
    rw [List.foldl_cons, ih, UInt8.or_eq_zero_iff, List.forall_mem_cons, and_assoc]

/-- Two byte strings are the same when none of their bytes differ. -/
theorem Signature.sameBytes_iff {a b : List UInt8} : sameBytes a b = true ↔ a = b := by
  rw [sameBytes, Bool.and_eq_true, beq_iff_eq, beq_iff_eq, foldl_or_eq_zero_iff]
  induction a generalizing b with
  | nil => cases b <;> simp
  | cons x a ih =>
    cases b with
    | nil => simp
    | cons y b =>
      rw [List.cons.injEq, ← ih, List.zipWith_cons_cons, List.forall_mem_cons,
        UInt8.xor_eq_zero_iff, List.length_cons, List.length_cons, Nat.add_right_cancel_iff]
      exact ⟨fun ⟨hlength, hzero, hhead, hrest⟩ ↦ ⟨hhead, hlength, hzero, hrest⟩,
        fun ⟨hhead, hlength, hzero, hrest⟩ ↦ ⟨hlength, hzero, hhead, hrest⟩⟩

/-! ## Digests -/

namespace Digest

/-- The digits that a digest is written with. -/
def Hex.numerals : List Char := "0123456789abcdef".toList

theorem Hex.digit_mem_numerals : ∀ n < 16, digit n ∈ numerals := by
  decide

/-- A digit is a small letter or no letter, is not blank, and does not begin the label. -/
theorem Hex.numerals_spec : ∀ c ∈ numerals,
    Text.isBlank c = false ∧ c ≠ 's' ∧ c.toLower = c ∧ c.toUpper.toLower = c := by
  have hall : numerals.all (fun c ↦
      decide (Text.isBlank c = false ∧ c ≠ 's' ∧ c.toLower = c ∧ c.toUpper.toLower = c)) = true := by
    decide
  exact fun c hc ↦ of_decide_eq_true (List.all_eq_true.mp hall c hc)

theorem Hex.mem_numerals_of_mem_encode (bytes : List UInt8) :
    ∀ c ∈ encode bytes, c ∈ numerals := by
  intro c hc
  obtain ⟨byte, -, hbyte⟩ := List.mem_flatMap.mp hc
  have hsize : byte.toNat < 256 := byte.toNat_lt
  rw [List.mem_cons, List.mem_singleton] at hbyte
  obtain rfl | rfl := hbyte
  · exact digit_mem_numerals _ (by omega)
  · exact digit_mem_numerals _ (by omega)

theorem Hex.encode_ne_nil {bytes : List UInt8} (h : bytes ≠ []) : encode bytes ≠ [] := by
  obtain ⟨byte, rest, rfl⟩ := List.exists_cons_of_ne_nil h
  exact List.cons_ne_nil _ _

theorem length_sha256 (message : List UInt8) : (sha256 message).length = 32 := by
  simp [sha256, HashState.words, bytesOfWord]

theorem hmacHex_ne_nil (payload : ByteArray) (secret : String) :
    (hmacHex payload secret).toList ≠ [] := by
  rw [hmacHex, String.toList_ofList]
  apply Hex.encode_ne_nil
  apply List.ne_nil_of_length_pos
  rw [hmacSha256, length_sha256]
  decide

theorem hmacHex_numerals (payload : ByteArray) (secret : String) :
    ∀ c ∈ (hmacHex payload secret).toList, c ∈ Hex.numerals := by
  rw [hmacHex, String.toList_ofList]
  exact Hex.mem_numerals_of_mem_encode _

end Digest

/-! ## Spellings -/

namespace Signature

open Digest Text

/-- A digest as it may be sent: after its label or bare, in digits of either case, and with blanks
around it. -/
def IsSpelling (digest given : String) : Prop :=
  ∃ before start digits after : List Char,
    given = String.ofList (before ++ (start ++ digits ++ after)) ∧
    (∀ c ∈ before, isBlank c = true) ∧ (∀ c ∈ after, isBlank c = true) ∧
    (start = [] ∨ start = label.toList) ∧ digits.map Char.toLower = digest.toList

theorem isSpelling_of_digits {digest given : String} {start digits : List Char}
    (hgiven : given = String.ofList (start ++ digits)) (hstart : start = [] ∨ start = label.toList)
    (hdigits : digits.map Char.toLower = digest.toList) : IsSpelling digest given := by
  refine ⟨[], start, digits, [], ?_, List.forall_mem_nil _, List.forall_mem_nil _, hstart, hdigits⟩
  rw [hgiven, List.nil_append, List.append_nil]

/-- The digits of a digest in small and in capital letters, bare and after the label. -/
theorem isSpelling_forms (payload : ByteArray) (secret : String) :
    let digest := Digest.hmacHex payload secret
    let capitals := String.ofList (digest.toList.map Char.toUpper)
    IsSpelling digest (sign payload secret) ∧ IsSpelling digest digest ∧
      IsSpelling digest capitals ∧ IsSpelling digest (label ++ capitals) := by
  intro digest capitals
  have hdigit (c : Char) (hc : c ∈ digest.toList) :=
    Hex.numerals_spec c (hmacHex_numerals payload secret c hc)
  have hsmall : digest.toList.map Char.toLower = digest.toList :=
    (List.map_congr_left fun c hc ↦ (hdigit c hc).2.2.1).trans (List.map_id' _)
  have hcapital : (digest.toList.map Char.toUpper).map Char.toLower = digest.toList := by
    rw [List.map_map]
    exact (List.map_congr_left fun c hc ↦ (hdigit c hc).2.2.2).trans (List.map_id' _)
  refine ⟨isSpelling_of_digits ?_ (.inr rfl) hsmall, isSpelling_of_digits ?_ (.inl rfl) hsmall,
    isSpelling_of_digits ?_ (.inl rfl) hcapital, isSpelling_of_digits ?_ (.inr rfl) hcapital⟩
  · rw [String.ofList_append, String.ofList_toList, String.ofList_toList, sign]
  · rw [List.nil_append, String.ofList_toList]
  · rw [List.nil_append]
  · rw [String.ofList_append, String.ofList_toList]

theorem isBlank_of_mem_label : ∀ c ∈ label.toList, isBlank c = false := by
  have hall : label.toList.all (!isBlank ·) = true := by decide
  exact fun c hc ↦ by simpa using List.all_eq_true.mp hall c hc

theorem withoutLabel_label_append (cs : List Char) : withoutLabel (label.toList ++ cs) = cs := by
  have hprefix : label.toList.isPrefixOf (label.toList ++ cs) = true :=
    List.isPrefixOf_iff_prefix.mpr (List.prefix_append _ _)
  rw [withoutLabel, if_pos hprefix, List.drop_left]

/-- Only the label begins like the label. -/
theorem withoutLabel_append {start digits : List Char} (hstart : start = [] ∨ start = label.toList)
    (hdigits : ∀ c ∈ digits, c ≠ 's') : withoutLabel (start ++ digits) = digits := by
  obtain rfl | rfl := hstart
  · have hbare : ¬ label.toList.isPrefixOf digits = true := by
      cases digits with
      | nil => decide
      | cons c rest =>
        have hc : ('s' == c) = false := beq_false_of_ne (hdigits c List.mem_cons_self).symm
        change ¬ (('s' == c) && _) = true
        rw [hc]
        exact Bool.false_ne_true
    rw [withoutLabel, List.nil_append, if_neg hbare]
  · exact withoutLabel_label_append digits

variable {payload : ByteArray} {secret given : String}

/-- Every spelling of a digest is read as that digest. -/
theorem IsSpelling.read (h : IsSpelling (Digest.hmacHex payload secret) given) :
    trim given ≠ "" ∧ claimedDigest given = Digest.hmacHex payload secret := by
  obtain ⟨before, start, digits, after, rfl, hbefore, hafter, hstart, hdigits⟩ := h
  have hdigit : ∀ c ∈ digits, isBlank c = false ∧ c ≠ 's' := by
    intro c hc
    have hlower : c.toLower ∈ (Digest.hmacHex payload secret).toList :=
      hdigits ▸ List.mem_map_of_mem hc
    obtain ⟨hblank, hs, -⟩ := Hex.numerals_spec _ (hmacHex_numerals payload secret _ hlower)
    exact ⟨isBlank_of_isBlank_toLower hblank, fun heq ↦ hs (by rw [heq]; rfl)⟩
  have hcore : ∀ c ∈ start ++ digits, isBlank c = false := by
    intro c hc
    obtain hc | hc := List.mem_append.mp hc
    · obtain rfl | rfl := hstart
      · exact absurd hc List.not_mem_nil
      · exact isBlank_of_mem_label c hc
    · exact (hdigit c hc).1
  have hne : start ++ digits ≠ [] := by
    intro hnil
    apply hmacHex_ne_nil payload secret
    rw [← hdigits, (List.append_eq_nil_iff.mp hnil).2, List.map_nil]
  have htrim := trim_surrounded hbefore hcore hne hafter
  constructor
  · rw [htrim]
    exact mt String.ofList_eq_empty_iff.mp hne
  · rw [claimedDigest, htrim, String.toList_ofList,
      withoutLabel_append hstart fun c hc ↦ (hdigit c hc).2, hdigits, String.ofList_toList]

/-! ## Checks -/

theorem claimedDigest_trim (given : String) : claimedDigest (trim given) = claimedDigest given := by
  rw [claimedDigest, trim_trim, claimedDigest]

theorem present?_eq_none_iff {text : Option String} :
    present? text = none ↔ ∀ s ∈ text, trim s = "" := by
  cases text with
  | none => simp [present?]
  | some s =>
    rw [present?, Option.bind_some, nonBlank?_map_trim, content?_eq_none_iff]
    simp

theorem present?_of_ne {s : String} (h : trim s ≠ "") : present? (some s) = some (trim s) := by
  rw [present?, Option.bind_some, nonBlank?_map_trim, content?_eq_some_iff]
  exact ⟨h, rfl⟩

/-- Without a secret, and under a blank one, everything is accepted. -/
theorem verify_of_blank {signature expected : Option String} (h : ∀ key ∈ expected, trim key = "") :
    verify payload signature expected = true := by
  rw [verify, present?_eq_none_iff.mpr h]

/-- Under a secret a signature is accepted if it is there and claims the digest. -/
theorem verify_iff_claimedDigest {signature : Option String} {key : String} (hkey : trim key ≠ "") :
    verify payload signature (some key) = true ↔
      ∃ given ∈ signature, trim given ≠ "" ∧
        claimedDigest given = Digest.hmacHex payload (trim key) := by
  rw [verify, present?_of_ne hkey]
  by_cases hsent : ∃ given ∈ signature, trim given ≠ ""
  · obtain ⟨given, rfl, hgiven⟩ := hsent
    rw [present?_of_ne hgiven]
    simp only [sameBytes_iff, toUTF8_toList_inj, claimedDigest_trim, Option.mem_some_iff,
      exists_eq_left', hgiven, ne_eq, not_false_eq_true, true_and]
    exact eq_comm
  · have habsent : present? signature = none := present?_eq_none_iff.mpr fun given hgiven ↦
      not_not.mp fun hne ↦ hsent ⟨given, hgiven, hne⟩
    rw [habsent]
    apply iff_of_false Bool.false_ne_true
    rintro ⟨given, hgiven, hne, -⟩
    exact hsent ⟨given, hgiven, hne⟩

/-- A digest made under one secret is accepted under another one that is blank, or that makes the
same digest when it is trimmed. -/
theorem verify_of_isSpelling (h : IsSpelling (Digest.hmacHex payload secret) given)
    (other : String) :
    verify payload (some given) (some other) = true ↔
      trim other = "" ∨ Digest.hmacHex payload (trim other) = Digest.hmacHex payload secret := by
  obtain ⟨hgiven, hclaimed⟩ := h.read
  by_cases hblank : trim other = ""
  · have haccepted : verify payload (some given) (some other) = true := by
      apply verify_of_blank
      rintro _ ⟨⟩
      exact hblank
    exact iff_of_true haccepted (.inl hblank)
  · rw [verify_iff_claimedDigest hblank]
    simp only [Option.mem_some_iff, exists_eq_left', hgiven, hclaimed, hblank, ne_eq,
      not_false_eq_true, true_and, false_or]
    exact eq_comm

theorem require_eq_ok_iff {provider : Provider} {signature expected : Option String} :
    require provider payload signature expected = .ok () ↔
      verify payload signature expected = true := by
  rw [require_eq]
  split
  · next hverified => exact iff_of_true rfl hverified
  · next hrefused => exact iff_of_false (by simp) hrefused

/-- The digest under a secret is the digest that a check under the same secret expects, if it
expects one. -/
def IsKeptByTrimming (payload : ByteArray) (secret : String) : Prop :=
  trim secret = "" ∨ Digest.hmacHex payload (trim secret) = Digest.hmacHex payload secret

/-- A check of what has been signed under a padded secret. -/
theorem not_forall_verify_sign :
    ¬ ∀ payload secret, verify payload (some (sign payload secret)) (some secret) = true := by
  intro h
  have hpadded : verify "\x7b\x7d".toUTF8 (some (sign "\x7b\x7d".toUTF8 " whsec "))
      (some " whsec ") = false := by
    decide +kernel
  rw [h] at hpadded
  contradiction

/-- **A signature is accepted under its own secret.**  In every spelling it passes both checks under
the secret it was made with, exactly if trimming the secret leaves the digest the same, as it does
when there is nothing to trim.  Every prompt of Tigo Pesa has a signature that passes under the
secret of the account in the same case. -/
theorem accepts_own_signature_iff (payload : ByteArray) (secret : String) :
    (∀ given, IsSpelling (Digest.hmacHex payload secret) given →
      (verify payload (some given) (some secret) = true ↔ IsKeptByTrimming payload secret) ∧
        ∀ provider, require provider payload (some given) (some secret) = .ok () ↔
          IsKeptByTrimming payload secret) ∧
    (let digest := Digest.hmacHex payload secret
      let capitals := String.ofList (digest.toList.map Char.toUpper)
      IsSpelling digest (sign payload secret) ∧ IsSpelling digest digest ∧
        IsSpelling digest capitals ∧ IsSpelling digest (label ++ capitals)) ∧
    (trim secret = secret → IsKeptByTrimming payload secret) ∧
    ∀ (account : Tigo.Account) request, (account.collect request).SendsOnly fun sent ↦
      ∃ given, sent.header? "x-signature" = some given ∧
        (verify sent.body.write.toUTF8 (some given) (some account.config.apiSecret) = true ↔
          IsKeptByTrimming sent.body.write.toUTF8 account.config.apiSecret) := by
  refine ⟨fun given h ↦ ?_, isSpelling_forms payload secret, fun h ↦ .inr (by rw [h]),
    fun account request ↦ ?_⟩
  · exact ⟨verify_of_isSpelling h secret,
      fun _ ↦ require_eq_ok_iff.trans (verify_of_isSpelling h secret)⟩
  · apply (account.collect_sendsOnly request).mono
    rintro _ ⟨prepared, identifier, -, rfl⟩
    exact ⟨_, rfl, verify_of_isSpelling (isSpelling_forms _ _).1 account.config.apiSecret⟩

/-- A label and capital digits, under a secret without blanks at its ends. -/
theorem accepts_own_signature_iff_capitals :
    verify "\x7b\x7d".toUTF8
      (some (label ++ String.ofList ((Digest.hmacHex "\x7b\x7d".toUTF8 "whsec").toList.map
        Char.toUpper))) (some "whsec") = true := by
  have hkept := (accepts_own_signature_iff "\x7b\x7d".toUTF8 "whsec").2.2.1 (by decide)
  have hspelling := (isSpelling_forms "\x7b\x7d".toUTF8 "whsec").2.2.2
  exact ((accepts_own_signature_iff "\x7b\x7d".toUTF8 "whsec").1 _ hspelling).1.mpr hkept

end Signature

end MobileMoney
