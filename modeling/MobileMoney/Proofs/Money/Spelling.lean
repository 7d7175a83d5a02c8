import MobileMoney.Proofs.Money.Display
import MobileMoney.Proofs.Record.Amount
import MobileMoney.Proofs.Text.Capitals

/-!
# Spellings of currencies

In whichever way an amount of money is given, its currency is the one that the text for it spells:
the text trimmed and in capital letters, which has to be three letters of ASCII.  Two texts spell
one currency exactly if they agree in that form, and then nothing that is built from them differs,
down to the report of a reconciliation.
-/

namespace MobileMoney

/-! ## Codes -/

theorem Currency.isLower_of_mem_normalize {text : String} {c : Char}
    (h : c ∈ (normalize text).toList) : c.isLower = false := by
  rw [normalize, Text.upper, String.toList_ofList] at h
  obtain ⟨source, -, hc⟩ := List.mem_flatMap.mp h
  exact Text.isLower_of_mem_upperChar hc

/-- In capital letters a text is a code if it takes three bytes and has only letters. -/
theorem Currency.isCurrencyCode_normalize_iff {text : String} :
    IsCurrencyCode (normalize text) ↔
      (normalize text).utf8ByteSize = 3 ∧ (normalize text).toList.all Char.isAlpha = true := by
  have hletters : (normalize text).toList.all Char.isAlpha = true ↔
      (normalize text).toList.all Char.isUpper = true := by
    simp only [List.all_eq_true]
    refine forall₂_congr fun c hc ↦ ?_
    change (c.isUpper || c.isLower) = true ↔ c.isUpper = true
    rw [isLower_of_mem_normalize hc, Bool.or_false]
  rw [IsCurrencyCode, hletters]
  refine and_congr_left fun hupper ↦ ?_
  have hbytes : (normalize text).utf8ByteSize = (normalize text).toList.length := by
    have hascii : ∀ c ∈ (normalize text).toList, c.toNat ≤ 127 := by
      intro c hc
      have hrange := Text.toNat_of_isUpper (List.all_eq_true.mp hupper c hc)
      omega
    rw [← Text.utf8ByteSize_ofList hascii, String.ofList_toList]
  rw [hbytes]

/-- The texts that spell a currency. -/
theorem Currency.exists_ofText?_iff {text : String} :
    (∃ found, ofText? text = some found) ↔
      (normalize text).utf8ByteSize = 3 ∧ (normalize text).toList.all Char.isAlpha = true := by
  rw [← isCurrencyCode_normalize_iff]
  constructor
  · rintro ⟨found, hfound⟩
    rw [← ofText?_eq_some_iff.mp hfound]
    exact found.isCode
  · intro hcode
    exact ⟨⟨_, hcode⟩, ofText?_eq_some_iff.mpr rfl⟩

theorem Currency.ofText?_congr {text other : String} (h : normalize text = normalize other) :
    ofText? text = ofText? other := by
  unfold ofText?
  simp only [h]

namespace Money

/-! ## The ways of giving an amount -/

theorem ofMinor_congr {currency other : String}
    (h : Currency.normalize currency = Currency.normalize other) (amount : Nat) :
    ofMinor amount currency = ofMinor amount other := by
  rw [ofMinor, ofMinor, Currency.ofText?_congr h, h]

/-- An amount as it is given next to a text for its currency. -/
inductive Given where
  | minor (amount : Nat)
  | major (amount : Nat)
  | majorText (amount : String)

namespace Given

def build : Given → String → Except MoneyError Money
  | minor amount => ofMinor amount
  | major amount => ofMajor amount
  | majorText amount => ofMajorText amount

/-- The amount is the given one, scaled by the decimal places of its own currency. -/
def IsScaled (money : Money) : Given → Prop
  | minor amount => money.minor = amount
  | major amount => money.minor = amount * 10 ^ Currency.minorDigits money.currency.code
  | majorText amount =>
    ∃ v, Decimal.IsDecimal Decimal.IsReadSignificand (Text.trim amount).toList v ∧
      v * 10 ^ Currency.minorDigits money.currency.code = money.minor

variable {given : Given} {currency other : String} {money : Money}

theorem build_eq_ok_iff :
    given.build currency = .ok money ↔
      money.currency.code = Currency.normalize currency ∧ given.IsScaled money := by
  cases given with
  | minor amount =>
    change ofMinor amount currency = .ok money ↔ _ ∧ money.minor = amount
    rw [ofMinor_eq_ok_iff, and_comm]
  | major amount =>
    change ofMajor amount currency = .ok money ↔
      _ ∧ money.minor = amount * Currency.factor money.currency.code
    rw [ofMajor_eq_ok_iff, and_comm]
    refine and_congr_right fun hcode ↦ ?_
    rw [hcode]
  | majorText amount =>
    change ofMajorText amount currency = .ok money ↔ _
    rw [ofMajorText_eq_ok_iff]
    refine and_congr_right fun hcode ↦ ?_
    rw [← hcode]
    rfl

/-- The spelling of a currency makes no difference, not even to how an amount is refused. -/
theorem build_congr (h : Currency.normalize currency = Currency.normalize other) :
    given.build currency = given.build other := by
  have hminor := ofMinor_congr h
  cases given with
  | minor amount => exact hminor amount
  | major amount =>
    change ofMajor amount currency = ofMajor amount other
    simp only [ofMajor, h, hminor]
  | majorText amount =>
    change ofMajorText amount currency = ofMajorText amount other
    simp only [ofMajorText, h, hminor]

end Given

/-! ## Canonical amounts -/

/-- An amount whose currency is the one that a text spells.  Built again from its own currency, in
any of the ways, it is the same. -/
structure IsCanonical (money : Money) (currency : String) : Prop where
  length_eq : money.currency.code.toList.length = 3
  letters : ∀ c ∈ money.currency.code.toList, 'A' ≤ c ∧ c ≤ 'Z'
  code_eq : money.currency.code = Text.upper (Text.trim currency)
  rebuilt : ∀ given : Given, given.IsScaled money → given.build money.currency.code = .ok money
  withMinor : ∀ minor (h : minor < UInt64.size),
    ofMinor minor money.currency.code = .ok (money.withMinor minor h)

variable {money other : Money} {currency spelling : String}

theorem isCanonical_of_code_eq (h : money.currency.code = Currency.normalize currency) :
    money.IsCanonical currency where
  length_eq := money.currency.isCode.1
  letters c hc := by
    have hupper := money.currency.isCode.isUpper hc
    exact of_decide_eq_true hupper
  code_eq := h
  rebuilt given hscaled :=
    Given.build_eq_ok_iff.mpr
      ⟨(Currency.normalize_of_isCurrencyCode money.currency.isCode).symm, hscaled⟩
  withMinor _ hminor := money.ofMinor_code hminor

theorem IsCanonical.sameCurrency_iff (h : money.IsCanonical currency)
    (hother : other.IsCanonical spelling) :
    money.sameCurrency other = true ↔
      Text.upper (Text.trim currency) = Text.upper (Text.trim spelling) := by
  rw [sameCurrency, decide_eq_true_eq, Currency.mk.injEq, h.code_eq, hother.code_eq]

/-- What a record states an amount with is what the amount is built from. -/
theorem isCanonical_of_amount? {record : AmountRecord} {document : Json}
    (h : record.amount? document = some money) :
    ∃ part amount currency, record.part? document = some part ∧ part.StatesAmount amount currency ∧
      money.minor = amount ∧ money.IsCanonical currency := by
  obtain ⟨part, hpart, hread⟩ := AmountRecord.exists_part?_of_amount? h
  obtain ⟨amount, currency, hstates, hbuilt⟩ := exists_of_ofJson? hread
  obtain ⟨hminor, hcode⟩ := ofMinor_eq_ok_iff.mp hbuilt
  exact ⟨part, amount, currency, hpart, hstates, hminor, isCanonical_of_code_eq hcode⟩

end Money

/-! ## Documents that differ in spelling -/

namespace Json

/-- Two texts that spell one currency. -/
def SpellAlike (a b : Json) : Prop :=
  ∃ currency other, a = .text currency ∧ b = .text other ∧
    Currency.normalize currency = Currency.normalize other

/-- Two documents of an amount that differ at most in how the currency is spelled. -/
def IsRespelled : Json → Json → Prop :=
  DifferAt ["amount_minor_units", "currency"] 1 SpellAlike

/-- Two documents of a payment that differ at most in how the currency is spelled. -/
def IsRespelledPayment : Json → Json → Prop :=
  DifferAt ["id", "amount", "status", "provider", "reference", "paid_at"] 1 IsRespelled

/-- Two documents of an invoice that differ at most in how the currency is spelled. -/
def IsRespelledInvoice : Json → Json → Prop :=
  DifferAt ["id", "amount_due", "status", "due_date"] 1 IsRespelled

variable {a b : Json}

/-- What is read of an amount does not depend on how its currency is spelled. -/
theorem IsRespelled.ofJson?_eq (h : IsRespelled a b) : Money.ofJson? a = Money.ofJson? b := by
  obtain ⟨before, after, _, _, hposition, ⟨currency, other, rfl, rfl, hsame⟩, ha, hb⟩ := h
  obtain ⟨amount, rfl⟩ := List.length_eq_one_iff.mp hposition
  have hbuilt := Money.ofMinor_congr hsame
  simp only [Money.ofJson?, ha, hb, Option.bind_eq_bind, Option.bind_some]
  cases after with
  | nil =>
    simp only [List.cons_append, List.nil_append, Slot.required?, text?, Option.bind_some, hbuilt]
  | cons => rfl

theorem IsRespelledPayment.ofJson?_eq (h : IsRespelledPayment a b) :
    PaymentRecord.ofJson? a = PaymentRecord.ofJson? b := by
  obtain ⟨before, after, part, other, hposition, hpart, ha, hb⟩ := h
  obtain ⟨id, rfl⟩ := List.length_eq_one_iff.mp hposition
  simp only [PaymentRecord.ofJson?, ha, hb, Option.bind_eq_bind, Option.bind_some]
  obtain _ | ⟨status, _ | ⟨provider, _ | ⟨reference, _ | ⟨paidAt, _ | ⟨next, rest⟩⟩⟩⟩⟩ := after
  on_goal 5 =>
    simp only [List.cons_append, List.nil_append, Slot.required?, hpart.ofJson?_eq]
  all_goals rfl

theorem IsRespelledInvoice.ofJson?_eq (h : IsRespelledInvoice a b) :
    InvoiceRecord.ofJson? a = InvoiceRecord.ofJson? b := by
  obtain ⟨before, after, part, other, hposition, hpart, ha, hb⟩ := h
  obtain ⟨id, rfl⟩ := List.length_eq_one_iff.mp hposition
  simp only [InvoiceRecord.ofJson?, ha, hb, Option.bind_eq_bind, Option.bind_some]
  obtain _ | ⟨status, _ | ⟨date, _ | ⟨next, rest⟩⟩⟩ := after
  on_goal 3 =>
    simp only [List.cons_append, List.nil_append, Slot.required?, hpart.ofJson?_eq]
  all_goals rfl

end Json

/-! ## Reports -/

/-- The report on snapshots that are still to be read. -/
def Reconciliation.reportOf? (settings : ReconciliationSettings) (payments invoices : List Json) :
    Option Report := do
  return reconcile settings (← payments.mapM PaymentRecord.ofJson?)
    (← invoices.mapM InvoiceRecord.ofJson?)

theorem Reconciliation.reportOf?_congr {settings : ReconciliationSettings}
    {payments payments' invoices invoices' : List Json}
    (hpayments : List.Forall₂ Json.IsRespelledPayment payments payments')
    (hinvoices : List.Forall₂ Json.IsRespelledInvoice invoices invoices') :
    reportOf? settings payments invoices = reportOf? settings payments' invoices' := by
  have hpayments' := mapM_congr_of_forall₂ (hpayments.imp fun _ _ h ↦ h.ofJson?_eq)
  have hinvoices' := mapM_congr_of_forall₂ (hinvoices.imp fun _ _ h ↦ h.ofJson?_eq)
  rw [reportOf?, reportOf?, hpayments', hinvoices']

/-- **Amounts of money are canonical.**  A text spells a currency if it is three ASCII letters after
trimming and in capitals.  Every amount that is built, in any way, is in the currency that the text
given with it spells and scaled by the decimal places of that currency, and so is every amount in a
record that is read.  Building it again gives it back.  Two texts lead to one currency if and only
if they agree after trimming and in capitals, and then nothing tells them apart: no way of building
an amount, and no reconciliation. -/
theorem Money.spellings_are_canonical :
    (∀ currency : String, (∃ found, Currency.ofText? currency = some found) ↔
      (Text.upper (Text.trim currency)).utf8ByteSize = 3 ∧
        (Text.upper (Text.trim currency)).toList.all Char.isAlpha = true) ∧
    (∀ (given : Given) (currency : String) (money : Money), given.build currency = .ok money →
      money.IsCanonical currency ∧ given.IsScaled money) ∧
    (∀ (record : AmountRecord) (document : Json) (money : Money),
      record.amount? document = some money →
        ∃ part amount currency, record.part? document = some part ∧
          part.StatesAmount amount currency ∧ money.minor = amount ∧ money.IsCanonical currency) ∧
    (∀ (money other : Money) (currency spelling : String),
      money.IsCanonical currency → other.IsCanonical spelling →
        ((money.currency = other.currency ↔
          Text.upper (Text.trim currency) = Text.upper (Text.trim spelling)) ∧
        (money.sameCurrency other = true ↔
          Text.upper (Text.trim currency) = Text.upper (Text.trim spelling)))) ∧
    (∀ (given : Given) (currency spelling : String),
      Text.upper (Text.trim currency) = Text.upper (Text.trim spelling) →
        given.build currency = given.build spelling) ∧
    ∀ (settings : ReconciliationSettings) (payments payments' invoices invoices' : List Json),
      List.Forall₂ Json.IsRespelledPayment payments payments' →
      List.Forall₂ Json.IsRespelledInvoice invoices invoices' →
        Reconciliation.reportOf? settings payments invoices =
          Reconciliation.reportOf? settings payments' invoices' := by
  refine ⟨fun currency ↦ Currency.exists_ofText?_iff, fun given currency money h ↦ ?_,
    fun record document money h ↦ isCanonical_of_amount? h,
    fun money other currency spelling h hother ↦ ?_,
    fun given currency spelling h ↦ Given.build_congr h,
    fun settings payments payments' invoices invoices' hpayments hinvoices ↦
      Reconciliation.reportOf?_congr hpayments hinvoices⟩
  · obtain ⟨hcode, hscaled⟩ := Given.build_eq_ok_iff.mp h
    exact ⟨isCanonical_of_code_eq hcode, hscaled⟩
  · have hsame := h.sameCurrency_iff hother
    refine ⟨?_, hsame⟩
    rw [← hsame, sameCurrency, decide_eq_true_eq]

/-- A payment of 450 shillings, with a text for the currency. -/
def shillingsPaid (currency : String) : Json :=
  .object [("id", .text "p1"),
    ("amount", .object [("amount_minor_units", .nat 45000), ("currency", .text currency)]),
    ("status", .text "succeeded")]

theorem Money.spellings_are_canonical_shilling :
    (∃ money other, (Given.major 450).build " kes " = .ok money ∧
      AmountRecord.payment.amount? (shillingsPaid "KES") = some other ∧
      money.IsCanonical " kes " ∧ (Given.major 450).IsScaled money ∧
      money.sameCurrency other = true) ∧
    Reconciliation.reportOf? .standard [shillingsPaid " kes "] [] =
      Reconciliation.reportOf? .standard [shillingsPaid "KES"] [] := by
  obtain ⟨-, hbuilt, hread, hsame, -, hreport⟩ := spellings_are_canonical
  have hspelled : Currency.normalize " kes " = Currency.normalize "KES" := by decide
  have hrespelled : Json.IsRespelledPayment (shillingsPaid " kes ") (shillingsPaid "KES") :=
    ⟨[.given (.text "p1")], [.given (.text "succeeded"), .absent, .absent, .absent], _, _, rfl,
      ⟨[.given (.nat 45000)], [], _, _, rfl, ⟨" kes ", "KES", rfl, rfl, hspelled⟩, rfl, rfl⟩,
      rfl, rfl⟩
  obtain ⟨money, hmoney⟩ : ∃ money, (Given.major 450).build " kes " = .ok money :=
    ⟨⟨45000, ⟨"KES", by decide⟩, by decide⟩, rfl⟩
  obtain ⟨other, hother⟩ :
      ∃ other, AmountRecord.payment.amount? (shillingsPaid "KES") = some other :=
    ⟨⟨45000, ⟨"KES", by decide⟩, by decide⟩, rfl⟩
  obtain ⟨hcanonical, hscaled⟩ := hbuilt _ _ _ hmoney
  obtain ⟨_, _, currency, ⟨⟩, hstates, -, hcanonical'⟩ := hread _ _ _ hother
  obtain rfl : "KES" = currency := Json.text.inj (Option.some.inj hstates.2)
  exact ⟨⟨money, other, hmoney, hother, hcanonical, hscaled,
    (hsame _ _ _ _ hcanonical hcanonical').2.mpr hspelled⟩,
    hreport _ _ _ _ _ (.cons hrespelled .nil) .nil⟩

end MobileMoney
