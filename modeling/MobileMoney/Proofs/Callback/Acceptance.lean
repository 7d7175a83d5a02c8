import MobileMoney.Proofs.Callback.Signing

/-!
# What a signature check accepts

Both checks of a signature accept the same.  Without a secret that is everything.  Under a secret it
is the digest of the payload in one of its spellings: there is no other text that is trimmed,
relieved of one label and lower-cased to the bytes of the digest.
-/

namespace MobileMoney.Signature

open Text

/-- A text is a spelling of the digest that it claims. -/
theorem isSpelling_claimedDigest (given : String) : IsSpelling (claimedDigest given) given := by
  obtain ⟨before, after, hbefore, hafter, hgiven⟩ := exists_trim_between given
  obtain ⟨start, hstart, hcore⟩ : ∃ start, (start = [] ∨ start = label.toList) ∧
      (trim given).toList = start ++ withoutLabel (trim given).toList := by
    by_cases hlabel : label.toList.isPrefixOf (trim given).toList = true
    · refine ⟨label.toList, .inr rfl, ?_⟩
      rw [withoutLabel, if_pos hlabel]
      exact (List.prefix_iff_eq_append.mp (List.isPrefixOf_iff_prefix.mp hlabel)).symm
    · exact ⟨[], .inl rfl, by rw [withoutLabel, if_neg hlabel, List.nil_append]⟩
  refine ⟨before, start, _, after, ?_, hbefore, hafter, hstart, String.toList_ofList.symm⟩
  rw [← hcore, ← hgiven, String.ofList_toList]

theorem isSpelling_iff_claimedDigest {payload : ByteArray} {secret given : String} :
    IsSpelling (Digest.hmacHex payload secret) given ↔
      claimedDigest given = Digest.hmacHex payload secret :=
  ⟨fun h ↦ h.read.2, fun h ↦ h ▸ isSpelling_claimedDigest given⟩

/-- One label is taken away, and not a second one. -/
theorem not_isSpelling_label_sign (payload : ByteArray) (secret : String) :
    ¬ IsSpelling (Digest.hmacHex payload secret) (label ++ sign payload secret) := by
  intro h
  have hfull : ∀ c ∈ (label ++ sign payload secret).toList, isBlank c = false := by
    rw [sign, String.toList_append, String.toList_append, List.forall_mem_append,
      List.forall_mem_append]
    exact ⟨isBlank_of_mem_label, isBlank_of_mem_label,
      fun c hc ↦ (Digest.Hex.numerals_spec c (Digest.hmacHex_numerals payload secret c hc)).1⟩
  have hclaimed := congrArg String.length (isSpelling_iff_claimedDigest.mp h)
  rw [claimedDigest, trim_eq_self hfull, String.toList_append, withoutLabel_label_append,
    String.length_ofList, List.length_map, String.length_toList, sign, String.length_append]
    at hclaimed
  have hlabel : label.length = 7 := rfl
  omega

/-- **Nothing but the digest is accepted.**  The two checks of a signature agree.  Without a secret,
and under a blank one, they accept everything.  Under any other secret they accept a signature if
it is there and is trimmed, relieved of one label and lower-cased to the bytes of the digest, and
the signatures for which this holds are the spellings of the digest.  All bytes count when the two
are compared. -/
theorem checks_accept_spellings (payload : ByteArray) (signature secret : Option String) :
    (∀ provider, require provider payload signature secret = .ok () ↔
      verify payload signature secret = true) ∧
    ((∀ key ∈ secret, trim key = "") → verify payload signature secret = true) ∧
    (∀ key ∈ secret, trim key ≠ "" →
      (verify payload signature secret = true ↔ ∃ given ∈ signature, trim given ≠ "" ∧
        (claimedDigest given).toUTF8.toList =
          (Digest.hmacHex payload (trim key)).toUTF8.toList) ∧
      (verify payload signature secret = true ↔ ∃ given ∈ signature,
        IsSpelling (Digest.hmacHex payload (trim key)) given)) ∧
    ∀ a b, sameBytes a b = true ↔ a = b := by
  refine ⟨fun _ ↦ require_eq_ok_iff, verify_of_blank, fun key hsecret hkey ↦ ?_,
    fun _ _ ↦ sameBytes_iff⟩
  obtain rfl : secret = some key := hsecret
  constructor
  · simp only [toUTF8_toList_inj]
    exact verify_iff_claimedDigest hkey
  · rw [verify_iff_claimedDigest hkey]
    refine exists_congr fun given ↦ and_congr_right fun _ ↦ ?_
    rw [← isSpelling_iff_claimedDigest]
    exact ⟨fun h ↦ h.2, fun h ↦ ⟨h.read.1, h⟩⟩

/-- Under a padded secret the digest that the trimmed one makes is accepted after its label, and not
after two of them.  Under a blank secret anything is accepted. -/
theorem checks_accept_spellings_padded :
    let payload := "\x7b\x7d".toUTF8
    verify payload (some (sign payload "whsec")) (some " whsec ") = true ∧
      ¬ verify payload (some (label ++ sign payload "whsec")) (some " whsec ") = true ∧
      verify payload (some "garbage") (some "  ") = true := by
  intro payload
  have htrim : trim " whsec " = "whsec" := by decide
  have hspellings (signature : Option String) :=
    ((checks_accept_spellings payload signature (some " whsec ")).2.2.1 _ rfl (by decide)).2
  simp only [htrim] at hspellings
  refine ⟨?_, ?_, ?_⟩
  · exact (hspellings _).mpr ⟨_, rfl, (isSpelling_forms payload "whsec").1⟩
  · rw [hspellings]
    rintro ⟨_, ⟨⟩, h⟩
    exact not_isSpelling_label_sign payload "whsec" h
  · apply (checks_accept_spellings payload (some "garbage") (some "  ")).2.1
    rintro _ ⟨⟩
    decide

end MobileMoney.Signature
