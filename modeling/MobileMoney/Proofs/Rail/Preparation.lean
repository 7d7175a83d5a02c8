import MobileMoney.Mpesa.Config
import MobileMoney.Proofs.Rail.Conditions
import MobileMoney.Proofs.Rail.Msisdn
import MobileMoney.Rail.Rules

/-!
# Preparation of requests

The rules of a rail are conditions on the currency and the amount, the reference, the phone number
and the remarks of a request, in this order.  A request that meets all of them is prepared: its
amount is worth what was asked for, its number is in normal form and its texts are cut to their
limits.  The first condition that is not met is reported by its field.
-/

namespace MobileMoney

/-! ## Amounts -/

/-- A number of major units that is worth an amount of money. -/
def Money.IsMajor (money : Money) (major : Nat) : Prop :=
  major * Nat.pow 10 (Currency.minorDigits money.currency.code) = money.minor

theorem Money.IsMajor.eq_div {money : Money} {major : Nat} (h : money.IsMajor major) :
    major = money.minor / Nat.pow 10 (Currency.minorDigits money.currency.code) := by
  have hfactor : 0 < Nat.pow 10 (Currency.minorDigits money.currency.code) :=
    Nat.pow_pos (by decide)
  exact (Nat.div_eq_of_eq_mul_left hfactor h.symm).symm

namespace RailRules

variable (rules : RailRules)

theorem checkCurrency_isDecidedBy (amount : Money) :
    IsDecidedBy rules.provider [⟨"currency", amount.currency.code = rules.currency⟩]
      (fun _ ↦ amount.currency.code = rules.currency) (rules.checkCurrency amount) := by
  refine isDecidedBy_check (fun hcurrency ↦ ⟨(), if_pos hcurrency, hcurrency⟩) fun hcurrency ↦ ?_
  rw [checkCurrency, if_neg hcurrency]
  exact ⟨_, rfl⟩

theorem toMajor_isDecidedBy (amount : Money) :
    IsDecidedBy rules.provider
      [⟨"amount", Nat.pow 10 (Currency.minorDigits amount.currency.code) ∣ amount.minor⟩]
      amount.IsMajor
      (amount.toMajor.mapError fun error ↦ .invalid rules.provider error.message "amount") := by
  refine isDecidedBy_check (fun hwhole ↦ ?_) fun hwhole ↦ ?_
  · refine ⟨amount.minor / amount.factor, mapError_eq_ok.mpr ?_, Nat.div_mul_cancel hwhole⟩
    exact if_pos (Nat.mod_eq_zero_of_dvd hwhole)
  · have hfraction : ¬ amount.minor % amount.factor = 0 :=
      fun hzero ↦ hwhole (Nat.dvd_of_mod_eq_zero hzero)
    rw [Money.toMajor, if_neg hfraction]
    exact ⟨_, rfl⟩

theorem checkLimits_isDecidedBy (limits : AmountLimits) (major : Nat) :
    IsDecidedBy rules.provider [⟨"amount", limits.min ≤ major ∧ major ≤ limits.max⟩]
      (fun _ ↦ limits.min ≤ major ∧ major ≤ limits.max) (rules.checkLimits limits major) := by
  have hcontains : limits.contains major = true ↔ limits.min ≤ major ∧ major ≤ limits.max := by
    rw [AmountLimits.contains, Bool.and_eq_true, decide_eq_true_iff, decide_eq_true_iff]
  refine isDecidedBy_check (fun hwithin ↦ ⟨(), if_pos (hcontains.mpr hwithin), hwithin⟩)
    fun hwithin ↦ ?_
  rw [checkLimits, if_neg (mt hcontains.mp hwithin)]
  exact ⟨_, rfl⟩

/-- The conditions on an amount: its currency is the one of the rail, and it is a whole number of
major units between the limits. -/
def amountConditions (limits : AmountLimits) (amount : Money) : List Condition :=
  let factor := Nat.pow 10 (Currency.minorDigits amount.currency.code)
  [⟨"currency", amount.currency.code = rules.currency⟩,
    ⟨"amount", factor ∣ amount.minor⟩,
    ⟨"amount", limits.min ≤ amount.minor / factor ∧ amount.minor / factor ≤ limits.max⟩]

theorem checkAmount_isDecidedBy (limits : AmountLimits) (amount : Money) :
    IsDecidedBy rules.provider (rules.amountConditions limits amount)
      (fun major ↦ amount.currency.code = rules.currency ∧ amount.IsMajor major)
      (rules.checkAmount limits amount) := by
  refine (rules.checkCurrency_isDecidedBy amount).bind fun _ hcurrency ↦ ?_
  refine (rules.toMajor_isDecidedBy amount).bind fun major hmajor ↦ ?_
  have hlimits := rules.checkLimits_isDecidedBy limits major
  rw [hmajor.eq_div] at hlimits ⊢
  exact hlimits.bind fun _ _ ↦ isDecidedBy_pure ⟨hcurrency, hmajor.eq_div ▸ hmajor⟩

/-! ## References, numbers and remarks -/

theorem checkReference_isDecidedBy (reference : String) :
    IsDecidedBy rules.provider
      [⟨"reference", 0 < rules.referenceLength ∧ Text.HasContent reference⟩]
      (fun sent ↦ sent = Text.truncate rules.referenceLength reference ∧ sent ≠ "")
      (rules.checkReference reference) := by
  refine isDecidedBy_check (fun hcontent ↦ ?_) fun hcontent ↦ ?_
  · have hne := Text.truncate_ne_empty_iff.mpr hcontent
    refine ⟨_, if_neg ?_, rfl, hne⟩
    rwa [String.isEmpty_iff]
  · have hempty := not_not.mp (mt Text.truncate_ne_empty_iff.mp hcontent)
    refine ⟨_, if_pos ?_⟩
    rwa [String.isEmpty_iff]

theorem normalize_isDecidedBy (hcode : Msisdn.IsCallingCode rules.callingCode) (phone : String) :
    IsDecidedBy rules.provider
      [⟨"phone", Msisdn.IsSpelling rules.callingCode.toList (Msisdn.digitsOf phone)⟩]
      (Msisdn.IsNormalForm rules.callingCode phone)
      (Msisdn.normalize rules.provider phone rules.callingCode) :=
  isDecidedBy_check
    (fun h ↦ ⟨_, Msisdn.normalize_of_isSpelling hcode h, Msisdn.isNormalForm_append hcode h⟩)
    (Msisdn.normalize_of_not_isSpelling hcode)

theorem checkRemarks_isDecidedBy (remarks : String) :
    IsDecidedBy rules.provider [⟨"remarks", Text.HasContent remarks⟩]
      (fun _ ↦ Text.HasContent remarks) (rules.checkRemarks remarks) := by
  have hblank : Text.isBlankText remarks = true ↔ ¬ Text.HasContent remarks := by
    rw [Text.hasContent_iff, not_not, Text.trim_eq_empty_iff]
  refine isDecidedBy_check (fun hcontent ↦ ⟨(), if_neg ?_, hcontent⟩) fun hcontent ↦ ?_
  · rwa [hblank, not_not]
  · rw [checkRemarks, if_pos (hblank.mpr hcontent)]
    exact ⟨_, rfl⟩

/-! ## Requests -/

/-- The conditions that collections and disbursements have in common. -/
def termConditions (limits : AmountLimits) (amount : Money) (reference phone : String) :
    List Condition :=
  rules.amountConditions limits amount ++
    [⟨"reference", 0 < rules.referenceLength ∧ Text.HasContent reference⟩,
      ⟨"phone", Msisdn.IsSpelling rules.callingCode.toList (Msisdn.digitsOf phone)⟩]

/-- What is made of the amount, the reference and the phone number of a request. -/
structure AreTermsOf (amount : Money) (reference phone : String) (major : Nat)
    (sent msisdn : String) : Prop where
  major : amount.IsMajor major
  reference : Text.IsCut rules.referenceLength reference sent
  reference_pos : 1 ≤ sent.length
  msisdn : Msisdn.IsNormalForm rules.callingCode phone msisdn

theorem terms_isDecidedBy {α : Type} {sound : α → Prop} {more : List Condition}
    (hcode : Msisdn.IsCallingCode rules.callingCode) (limits : AmountLimits) (amount : Money)
    (reference phone : String) {next : Nat → String → String → Except PaymentError α}
    (hnext : ∀ major sent msisdn, rules.AreTermsOf amount reference phone major sent msisdn →
      IsDecidedBy rules.provider more sound (next major sent msisdn)) :
    IsDecidedBy rules.provider (rules.termConditions limits amount reference phone ++ more) sound
      (do
        let major ← rules.checkAmount limits amount
        let sent ← rules.checkReference reference
        let msisdn ← Msisdn.normalize rules.provider phone rules.callingCode
        next major sent msisdn) := by
  rw [termConditions, List.append_assoc]
  refine (rules.checkAmount_isDecidedBy limits amount).bind fun major hamount ↦ ?_
  refine (rules.checkReference_isDecidedBy reference).bind fun sent hsent ↦ ?_
  refine (rules.normalize_isDecidedBy hcode phone).bind fun msisdn hmsisdn ↦ ?_
  obtain ⟨rfl, hne⟩ := hsent
  refine hnext major _ msisdn ⟨hamount.2, Text.isCut_truncate _ _, ?_, hmsisdn⟩
  exact Nat.pos_of_ne_zero (mt String.length_eq_zero_iff.mp hne)

/-- What is prepared for a collection. -/
structure IsCollectionOf (request : CollectionRequest) (prepared : PreparedCollection) : Prop where
  terms : rules.AreTermsOf request.amount request.reference request.payerPhone prepared.amount
    prepared.reference prepared.msisdn
  description : Text.IsCut rules.descriptionLength
    (request.description.getD request.reference) prepared.description

/-- What is prepared for a disbursement. -/
structure IsDisbursementOf (remarksLength : Nat) (request : DisbursementRequest)
    (prepared : PreparedDisbursement) : Prop where
  terms : rules.AreTermsOf request.amount request.reference request.recipientPhone prepared.amount
    prepared.reference prepared.msisdn
  remarks : Text.IsCut remarksLength request.remarks prepared.remarks
  occasion : Text.IsCut remarksLength (request.occasion.getD "") prepared.occasion

/-- **Exactly the well-formed requests are prepared.**  A collection meets the conditions on its
terms, and a disbursement has remarks as well.  The amount, the number and the texts of what is
prepared are those of the request, and a refusal names the field of the first condition that is not
met. -/
theorem prepare_isDecidedBy (hcode : Msisdn.IsCallingCode rules.callingCode) :
    (∀ request, IsDecidedBy rules.provider
      (rules.termConditions rules.collectionLimits request.amount request.reference
        request.payerPhone)
      (rules.IsCollectionOf request) (rules.prepareCollection request)) ∧
    ∀ remarksLength request, IsDecidedBy rules.provider
      (rules.termConditions rules.disbursementLimits request.amount request.reference
        request.recipientPhone ++ [⟨"remarks", Text.HasContent request.remarks⟩])
      (rules.IsDisbursementOf remarksLength request)
      (rules.prepareDisbursement remarksLength request) := by
  refine ⟨fun request ↦ ?_, fun remarksLength request ↦ ?_⟩
  · rw [← List.append_nil (rules.termConditions ..)]
    refine rules.terms_isDecidedBy hcode _ _ _ _ fun major sent msisdn hterms ↦ ?_
    exact isDecidedBy_pure ⟨hterms, Text.isCut_truncate _ _⟩
  · refine rules.terms_isDecidedBy hcode _ _ _ _ fun major sent msisdn hterms ↦ ?_
    refine (rules.checkRemarks_isDecidedBy request.remarks).bind fun _ _ ↦ ?_
    exact isDecidedBy_pure ⟨hterms, Text.isCut_truncate _ _, Text.isCut_truncate _ _⟩

/-- A rent is prepared in whole shillings, for the number in its normal form. -/
theorem prepare_isDecidedBy_rent :
    let rent : CollectionRequest :=
      ⟨⟨3125000, ⟨"KES", by decide⟩, by decide⟩, "+254 712 345 678", " INV-2024-000123", none⟩
    ∃ prepared, Mpesa.rules.prepareCollection rent = .ok prepared ∧ prepared.amount = 31250 ∧
      prepared.msisdn = "254712345678" := by
  intro rent
  have hrent := (prepare_isDecidedBy Mpesa.rules Msisdn.isCallingCode_kenya).1 rent
  have hcurrency : rent.amount.currency.code = Mpesa.rules.currency := rfl
  have hamount : Nat.pow 10 (Currency.minorDigits rent.amount.currency.code) ∣
      rent.amount.minor := by
    decide
  have hlimits : 1 ≤ rent.amount.minor / 100 ∧ rent.amount.minor / 100 ≤ 150000 := by
    decide
  have hreference : 0 < 12 ∧ Text.HasContent rent.reference :=
    ⟨by decide, 'I', by decide, by decide⟩
  have hphone : Msisdn.IsSpelling "254".toList (Msisdn.digitsOf rent.payerPhone) :=
    .inr (.inl ⟨by decide, by decide⟩)
  obtain ⟨prepared, hprepared⟩ := hrent.accepts.mpr (by
    simp only [termConditions, amountConditions, List.cons_append, List.nil_append,
      List.forall_mem_cons]
    exact ⟨hcurrency, hamount, hlimits, hreference, hphone, List.forall_mem_nil _⟩)
  have hterms := (hrent.sound prepared hprepared).terms
  refine ⟨prepared, hprepared, ?_, ?_⟩
  · rw [hterms.major.eq_div]
    decide
  · rw [hterms.msisdn.eq_append]
    decide

end RailRules

end MobileMoney
