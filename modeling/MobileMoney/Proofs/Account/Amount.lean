import MobileMoney.Proofs.Account.Initiation
import MobileMoney.Proofs.Account.Requests
import MobileMoney.Proofs.Decimal.Whole
import MobileMoney.Proofs.Json.Numeral
import MobileMoney.Proofs.Money.Parsing
import MobileMoney.Proofs.Rail.Preparation
import MobileMoney.Proofs.Tigo.Response

/-!
# Exact amounts

A request carries its amount as a whole number of major units, worth exactly the minor units that
were asked for.  A notification that repeats that number, in any of the notations in which the rails
write it, is read as the same amount of money.
-/

namespace MobileMoney

open Call

/-! ## What the rules prepare -/

theorem Money.IsMajor.lt_size {money : Money} {major : Nat} (h : money.IsMajor major) :
    major < UInt64.size := by
  have hfactor : 0 < Nat.pow 10 (Currency.minorDigits money.currency.code) :=
    Nat.pow_pos (by decide)
  have hle : major ≤ money.minor := by
    rw [← h]
    exact Nat.le_mul_of_pos_right major hfactor
  exact Nat.lt_of_le_of_lt hle money.minor_lt

/-- Only one number is worth an amount. -/
theorem Money.IsMajor.eq {money : Money} {a b : Nat} (ha : money.IsMajor a)
    (hb : money.IsMajor b) : a = b :=
  ha.eq_div.trans hb.eq_div.symm

namespace RailRules

variable {rules : RailRules}

theorem prepareCollection_amount {request : CollectionRequest} {prepared : PreparedCollection}
    (h : rules.prepareCollection request = .ok prepared) :
    request.amount.currency.code = rules.currency ∧ request.amount.IsMajor prepared.amount := by
  simp only [prepareCollection, bind_eq_ok, pure_eq_ok] at h
  obtain ⟨amount, hamount, reference, -, msisdn, -, rfl⟩ := h
  exact (rules.checkAmount_isDecidedBy _ _).sound _ hamount

theorem prepareDisbursement_amount {remarksLength : Nat} {request : DisbursementRequest}
    {prepared : PreparedDisbursement}
    (h : rules.prepareDisbursement remarksLength request = .ok prepared) :
    request.amount.currency.code = rules.currency ∧ request.amount.IsMajor prepared.amount := by
  simp only [prepareDisbursement, bind_eq_ok, pure_eq_ok] at h
  obtain ⟨amount, hamount, reference, -, msisdn, -, _, -, rfl⟩ := h
  exact (rules.checkAmount_isDecidedBy _ _).sound _ hamount

end RailRules

/-! ## What is sent -/

def Json.natural? : Json → Option Nat
  | .number (.integer (.ofNat n)) => some n
  | _ => none

/-- The amount that a request for money asks for, in the place where its rail looks for it. -/
def Provider.wireAmount? (provider : Provider) (request : Request) : Option Nat :=
  match provider, request.body with
  | .mpesa, .json document => (document.at? ["Amount"]).bind Json.natural?
  | .airtelMoney, .json document => (document.at? ["transaction", "amount"]).bind Json.natural?
  | .tigoPesa, .text content =>
    (Tigo.innerText? "AMOUNT" content).bind fun digits ↦ Decimal.read? digits.toList
  | _, _ => none

theorem Markup.escape_write (n : Nat) : escape (Decimal.write n) = Decimal.write n := by
  have hplain : ∀ c ∈ Decimal.digits n, c ∉ specials := by
    intro c hc hspecial
    have hdigit := Decimal.isDigit_of_mem_digits hc
    simp only [specials, List.mem_cons, List.not_mem_nil, or_false] at hspecial
    obtain rfl | rfl | rfl | rfl | rfl := hspecial <;> contradiction
  rw [escape, Decimal.write, String.toList_ofList, escapeChars_eq_self hplain]

namespace Tigo.Account

variable (account : Account)

/-- The amount stands between its tags as it was prepared. -/
theorem innerText?_amount (identifier : String) (prepared : PreparedCollection) :
    innerText? "AMOUNT" (account.collectionDocument identifier prepared).render =
      some (Markup.escape (Decimal.write prepared.amount)) :=
  innerText?_render (by decide : Markup.IsTagName "AMOUNT" ∧ "AMOUNT" ≠ "COMMAND") rfl

end Tigo.Account

namespace Account

variable (account : Account)

theorem collect_wireAmount {request : CollectionRequest} :
    (account.collect request).SendsOnly fun sent ↦ account.exchangeRequest? = some sent ∨
      ∃ prepared, account.prepareCollection request = .ok prepared ∧
        account.provider.wireAmount? sent = some prepared.amount := by
  cases account with
  | mpesa account =>
    apply (account.collect_sendsOnly request).mono
    rintro sent (rfl | ⟨prepared, timestamp, token, hprepared, rfl⟩)
    · exact .inl rfl
    · exact .inr ⟨prepared, hprepared, rfl⟩
  | airtel account =>
    apply (account.collect_sendsOnly request).mono
    rintro sent (rfl | ⟨prepared, token, hprepared, rfl⟩)
    · exact .inl rfl
    · exact .inr ⟨prepared, hprepared, rfl⟩
  | tigo account =>
    apply (account.collect_sendsOnly request).mono
    rintro sent ⟨prepared, identifier, hprepared, rfl⟩
    refine .inr ⟨prepared, hprepared, ?_⟩
    have hinner := account.innerText?_amount identifier prepared
    have hread : Decimal.read? (Decimal.write prepared.amount).toList = some prepared.amount := by
      rw [Decimal.write, String.toList_ofList, Decimal.read?_digits]
    simp only [Provider.wireAmount?, Account.provider, Tigo.Account.collectionRequest, hinner,
      Option.bind_some, Markup.escape_write, hread]

theorem disburse_wireAmount {request : DisbursementRequest} :
    (account.disburse request).SendsOnly fun sent ↦ account.exchangeRequest? = some sent ∨
      ∃ remarksLength prepared,
        account.rules.prepareDisbursement remarksLength request = .ok prepared ∧
        account.provider.wireAmount? sent = some prepared.amount := by
  cases account with
  | mpesa account =>
    apply (account.disburse_sendsOnly request).mono
    rintro sent (rfl | ⟨prepared, identifier, terms, token, hprepared, rfl⟩)
    · exact .inl rfl
    · exact .inr ⟨_, prepared, hprepared, rfl⟩
  | airtel account =>
    apply (account.disburse_sendsOnly request).mono
    rintro sent (rfl | ⟨prepared, pin, token, hprepared, rfl⟩)
    · exact .inl rfl
    · exact .inr ⟨_, prepared, hprepared, rfl⟩
  | tigo account =>
    exact fun _ _ ↦ ⟨[], (List.append_nil _).symm, List.forall_mem_nil _⟩

end Account

/-! ## What is read back -/

/-- A leaf that stands for a whole number: the number, or one of its decimal notations. -/
inductive Json.IsWhole (n : Nat) : Json → Prop
  | number : IsWhole n (.nat n)
  | text {cs : List Char} (whole : Decimal.IsWhole n cs) : IsWhole n (.text (String.ofList cs))

theorem Decimal.IsWhole.isNumeral {n : Nat} {cs : List Char} (h : IsWhole n cs) :
    ∀ c ∈ cs, isNumeral c = true := by
  cases h with
  | plain => exact isNumeral_digits n
  | zeros count few =>
    rw [List.forall_mem_append, List.forall_mem_cons]
    refine ⟨isNumeral_digits n, rfl, fun c hc ↦ ?_⟩
    rw [List.eq_of_mem_replicate hc]
    rfl

theorem Decimal.IsWhole.ne_nil {n : Nat} {cs : List Char} (h : IsWhole n cs) : cs ≠ [] := by
  cases h with
  | plain => exact digits_ne_nil n
  | zeros count few => exact List.append_ne_nil_of_left_ne_nil (digits_ne_nil n) _

theorem Decimal.IsWhole.trim_eq {n : Nat} {cs : List Char} (h : IsWhole n cs) :
    Text.trim (String.ofList cs) = String.ofList cs := by
  apply Text.trim_eq_self
  intro c hc
  rw [String.toList_ofList] at hc
  exact isBlank_of_isNumeral (h.isNumeral c hc)

theorem Decimal.IsWhole.content?_eq {n : Nat} {cs : List Char} (h : IsWhole n cs) :
    Text.content? (String.ofList cs) = some (String.ofList cs) := by
  rw [Text.content?_eq_some_iff, h.trim_eq]
  exact ⟨mt String.ofList_eq_empty_iff.mp h.ne_nil, rfl⟩

theorem Json.IsWhole.exists_scalar {n : Nat} {value : Json} (h : value.IsWhole n) :
    ∃ cs, Decimal.IsWhole n cs ∧ value.scalar? = some (String.ofList cs) := by
  cases h with
  | number => exact ⟨Decimal.digits n, .plain, rfl⟩
  | text whole =>
    refine ⟨_, whole, ?_⟩
    rw [scalar?_eq, leafText?, Option.bind_some, whole.content?_eq]

/-- A notation of a whole number is read as the money that it is worth. -/
theorem Money.IsMajor.ofMajorText {money : Money} {major : Nat} (h : money.IsMajor major)
    {cs : List Char} (hcs : Decimal.IsWhole major cs) :
    Money.ofMajorText (String.ofList cs) money.currency.code = .ok money := by
  rw [Money.ofMajorText_eq_ok_iff, Currency.normalize_of_isCurrencyCode money.currency.isCode,
    hcs.trim_eq, String.toList_ofList]
  refine ⟨rfl, major, hcs.isDecimal, ?_⟩
  rw [← h]
  exact_mod_cast rfl

/-! ## Notifications with the amount -/

/-- An answer to a prompt, with an identifier and with a number as the first value that is named
`Amount`. -/
def Mpesa.EchoesAmount (amount : Nat) (payload : ByteArray) : Prop :=
  ∃ document answer id item value, Json.documentOfBytes? payload = some document ∧
    document.at? ["Body", "stkCallback"] = some answer ∧
    answer.scalarAt? ["CheckoutRequestID"] = some id ∧
    (itemsAt answer ["CallbackMetadata", "Item"]).find? (hasName "Name" "Amount") = some item ∧
    item.member? "Value" = some value ∧ value.IsWhole amount

/-- A notification with an identifier and a status, in which the amount stands between its tags as
it stands in a document that asks for the collection. -/
def Tigo.Account.EchoesAmount (account : Account) (prepared : PreparedCollection)
    (payload : ByteArray) : Prop :=
  ∃ text id status identifier, String.fromUTF8? payload = some text ∧
    Markup.extract? text "TXNID" = some id ∧ Markup.extract? text "STATUS" = some status ∧
    innerText? "AMOUNT" text =
      innerText? "AMOUNT" (account.collectionDocument identifier prepared).render

theorem Payload.readAmount_of_isWhole (provider : Provider) {money : Money} {major : Nat}
    (h : money.IsMajor major) {cs : List Char} (hcs : Decimal.IsWhole major cs) :
    readAmount provider money.currency.code (some (String.ofList cs)) = .ok (some money) := by
  rw [readAmount, h.ofMajorText hcs, amountOf]

theorem Mpesa.parseCallback_amount {money : Money} {major : Nat} (hmajor : money.IsMajor major)
    (hcurrency : money.currency.code = rules.currency) {payload : ByteArray}
    (h : EchoesAmount major payload) (receivedAt : Instant) :
    ∃ event, parseCallback receivedAt payload = .ok event ∧ event.amount = some money := by
  obtain ⟨document, answer, id, item, value, hdocument, hanswer, hid, hitem, hvalue, hwhole⟩ := h
  obtain ⟨text, hread⟩ := Payload.readDocument_of_documentOfBytes? hdocument .mpesa
  obtain ⟨cs, hcs, hscalar⟩ := hwhole.exists_scalar
  have hnamed : namedValue? (itemsAt answer ["CallbackMetadata", "Item"]) "Name" "Amount" =
      some (String.ofList cs) := by
    rw [namedValue?, hitem, Option.bind_some, Json.scalarAt?]
    simpa [Json.at?, hvalue] using hscalar
  have hamount := Payload.readAmount_of_isWhole .mpesa hmajor hcs
  rw [hcurrency] at hamount
  rw [parseCallback, readNotice, hread, ok_bind]
  simp only [hanswer, readPromptAnswer, hid, Payload.require, hnamed, ok_bind, pure_bind]
  exact ⟨_, Notice.complete_eq_ok.mpr ⟨_, hamount, rfl⟩, rfl⟩

/-- Zeros after the point are as good as none. -/
example :
    ((Mpesa.parseCallback ⟨0, 0, by decide⟩ (String.toUTF8
        ("\x7b\"Body\":\x7b\"stkCallback\":\x7b\"CheckoutRequestID\":\"ws_CO_1\"," ++
          "\"CallbackMetadata\":\x7b\"Item\":[\x7b\"Name\":\"Amount\",\"Value\":\"500.000\"\x7d]" ++
          "\x7d\x7d\x7d\x7d"))).toOption.bind CallbackEvent.amount).map Money.minor =
      some 50000 := by
  decide +kernel

theorem Tigo.Account.parseCallback_amount {account : Account} {prepared : PreparedCollection}
    {money : Money} (hmajor : money.IsMajor prepared.amount)
    (hcurrency : money.currency.code = rules.currency) {payload : ByteArray}
    (h : account.EchoesAmount prepared payload) (receivedAt : Instant) :
    ∃ event, parseCallback receivedAt payload = .ok event ∧ event.amount = some money := by
  obtain ⟨text, id, status, identifier, htext, hid, hstatus, hinner⟩ := h
  have helement : Markup.extract? text "AMOUNT" =
      some (String.ofList (Decimal.digits prepared.amount)) := by
    rw [Tigo.extract?_eq, hinner, account.innerText?_amount, Option.bind_some, Tigo.content?,
      Markup.content?_escape, Decimal.write, (Decimal.IsWhole.plain).content?_eq]
  have hamount := Payload.readAmount_of_isWhole .tigoPesa hmajor .plain
  rw [hcurrency] at hamount
  have hread : readText payload = .ok text := by simp [readText, htext]
  rw [parseCallback, readNotice, hread, ok_bind]
  simp only [hid, hstatus, helement, Payload.require, ok_bind, pure_bind]
  exact ⟨_, Notice.complete_eq_ok.mpr ⟨_, hamount, rfl⟩, rfl⟩

namespace Account

/-- The notifications of a collection that repeat its amount.  Those of Airtel Money have none. -/
def EchoesAmount : Account → PreparedCollection → ByteArray → Prop
  | mpesa _ => fun prepared ↦ Mpesa.EchoesAmount prepared.amount
  | airtel _ => fun _ _ ↦ False
  | tigo account => account.EchoesAmount

/-- **Amounts are exact.**  The number that a collection or a disbursement sends, times ten to the
number of decimal places of the currency, is the amount in minor units that was asked for.  Written
into a document it is read as the same number, and a notification that repeats it makes an event
with the amount of the request. -/
theorem amounts_are_exact (account : Account) :
    (∀ request prepared, account.prepareCollection request = .ok prepared →
      prepared.amount * Nat.pow 10 (Currency.minorDigits request.amount.currency.code) =
        request.amount.minor ∧
      Json.parse? (Json.nat prepared.amount).compact.toList = some (.nat prepared.amount) ∧
      ((account.collect request).SendsOnly fun sent ↦ account.exchangeRequest? = some sent ∨
        account.provider.wireAmount? sent = some prepared.amount) ∧
      ∀ receivedAt payload, account.EchoesAmount prepared payload → ∃ event,
        account.provider.parseCallback receivedAt payload = .ok event ∧
          event.amount = some request.amount) ∧
    ∀ remarksLength request prepared,
      account.rules.prepareDisbursement remarksLength request = .ok prepared →
      prepared.amount * Nat.pow 10 (Currency.minorDigits request.amount.currency.code) =
        request.amount.minor ∧
      Json.parse? (Json.nat prepared.amount).compact.toList = some (.nat prepared.amount) ∧
      (account.disburse request).SendsOnly fun sent ↦ account.exchangeRequest? = some sent ∨
        account.provider.wireAmount? sent = some prepared.amount := by
  constructor
  · intro request prepared hprepared
    obtain ⟨hcurrency, hmajor⟩ := RailRules.prepareCollection_amount hprepared
    refine ⟨hmajor, Json.parse?_compact_nat hmajor.lt_size, ?_, fun receivedAt payload hecho ↦ ?_⟩
    · apply account.collect_wireAmount.mono
      rintro sent (hexchange | ⟨found, hfound, hsent⟩)
      · exact .inl hexchange
      · obtain rfl := Except.ok.inj (hprepared.symm.trans hfound)
        exact .inr hsent
    · cases account with
      | mpesa account => exact Mpesa.parseCallback_amount hmajor hcurrency hecho receivedAt
      | airtel account => exact hecho.elim
      | tigo account => exact Tigo.Account.parseCallback_amount hmajor hcurrency hecho receivedAt
  · intro remarksLength request prepared hprepared
    obtain ⟨-, hmajor⟩ := RailRules.prepareDisbursement_amount hprepared
    refine ⟨hmajor, Json.parse?_compact_nat hmajor.lt_size, ?_⟩
    apply account.disburse_wireAmount.mono
    rintro sent (hexchange | ⟨length, found, hfound, hsent⟩)
    · exact .inl hexchange
    · obtain ⟨-, hsame⟩ := RailRules.prepareDisbursement_amount hfound
      exact .inr (hsent.trans (congrArg some (hsame.eq hmajor)))

/-- A notification of Tigo Pesa about 5000 shillings. -/
def tigoNotice : String :=
  "<COMMAND><TXNID>TX-1</TXNID><STATUS>SUCCESS</STATUS><AMOUNT>5000</AMOUNT></COMMAND>"

/-- A collection of 500000 minor units is sent and notified as 5000 shillings. -/
theorem amounts_are_exact_shillings :
    ∃ event, Tigo.parseCallback ⟨0, 0, by decide⟩ tigoNotice.toUTF8 = .ok event ∧
      event.amount = some ⟨500000, ⟨"TZS", by decide⟩, by decide⟩ := by
  have hprepared : (Account.tigo
      ⟨⟨"key", "secret", "600000", "Shop", none, .sandbox, none, "/pay"⟩⟩).prepareCollection
        ⟨⟨500000, ⟨"TZS", by decide⟩, by decide⟩, "0712345678", "Rent", none⟩ =
      .ok ⟨5000, "255712345678", "Rent", "Rent"⟩ := by
    decide +kernel
  refine ((amounts_are_exact (.tigo _)).1 _ _ hprepared).2.2.2 _ _
    ⟨tigoNotice, "TX-1", "SUCCESS", "TX-1", ?_, ?_, ?_, ?_⟩
  · decide +kernel
  · decide +kernel
  · decide +kernel
  · rw [Tigo.Account.innerText?_amount]
    decide +kernel

end Account

end MobileMoney
