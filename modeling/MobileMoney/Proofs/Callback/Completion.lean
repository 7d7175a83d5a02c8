import MobileMoney.Proofs.Callback.Authentication
import MobileMoney.Proofs.Callback.Reading

/-!
# Amounts that cannot be computed

The amount of a notification is scaled to minor units before its size is looked at, so a machine has
to compute the power of ten that the text names.  Where it cannot, the reading of the notification
is aborted.  Wherever it is not aborted, the notification is read as it is without a limit.
-/

namespace MobileMoney

variable {α β : Type} {capacity : Nat} {provider : Provider} {currency : String}

/-! ## Steps that may be aborted -/

namespace Payload

variable {step : Except PaymentError α} {next : α → Option (Except PaymentError β)}
  {result : Except PaymentError β}

theorem andThen?_eq_none_iff :
    andThen? step next = none ↔ ∃ value, step = .ok value ∧ next value = none := by
  cases step <;> simp [andThen?]

/-- What comes after a step is what comes without a limit, if that holds of what follows it. -/
theorem andThen?_eq_some {total : α → Except PaymentError β}
    (hnext : ∀ value, next value = some result → result = total value)
    (h : andThen? step next = some result) : result = step >>= total := by
  cases step with
  | ok value => exact hnext value h
  | error error => exact (Option.some.inj h).symm

theorem readAmount?_eq_none_iff {text : Option String} :
    readAmount? capacity provider currency text = none ↔
      ∃ amount, text = some amount ∧ Money.IsLostText capacity amount := by
  cases text <;> simp [readAmount?, Money.ofMajorText?_eq_none_iff]

theorem readAmount?_eq_some {text : Option String} {result : Except PaymentError (Option Money)}
    (h : readAmount? capacity provider currency text = some result) :
    result = readAmount provider currency text := by
  cases text with
  | none => exact (Option.some.inj h).symm
  | some text =>
    rw [readAmount?, Option.map_eq_some_iff] at h
    obtain ⟨read, hread, rfl⟩ := h
    rw [Money.ofMajorText?_eq_some hread, readAmount]

end Payload

namespace Notice

variable {notice : Notice} {step : Except PaymentError Notice}
  {result : Except PaymentError CallbackEvent}

theorem complete?_eq_none_iff :
    notice.complete? capacity currency = none ↔
      ∃ text, notice.amount = some text ∧ Money.IsLostText capacity text := by
  rw [complete?, Option.map_eq_none_iff, Payload.readAmount?_eq_none_iff]

theorem complete?_eq_some (h : notice.complete? capacity currency = some result) :
    result = notice.complete currency := by
  rw [complete?, Option.map_eq_some_iff] at h
  obtain ⟨amount, hamount, rfl⟩ := h
  rw [Payload.readAmount?_eq_some hamount, complete]

theorem andThen?_complete?_eq_none_iff :
    Payload.andThen? step (·.complete? capacity currency) = none ↔
      ∃ text, step.toOption.bind Notice.amount = some text ∧ Money.IsLostText capacity text := by
  rw [Payload.andThen?_eq_none_iff]
  cases step with
  | error error => simp [Except.toOption]
  | ok notice => simp [Except.toOption, complete?_eq_none_iff]

theorem andThen?_complete?_eq_some
    (h : Payload.andThen? step (·.complete? capacity currency) = some result) :
    result = step >>= fun notice ↦ notice.complete currency :=
  Payload.andThen?_eq_some (fun _ hnotice ↦ complete?_eq_some hnotice) h

end Notice

/-! ## The amounts in notifications -/

namespace Mpesa

/-- The text of the amount of a payload, if it has everything that has to come before. -/
def writtenAmount? (payload : ByteArray) : Option String :=
  (Json.documentOfBytes? payload).bind fun document ↦
    match document.at? ["Body", "stkCallback"] with
    | some answer => (answer.scalarAt? ["CheckoutRequestID"]).bind fun _ ↦
      namedValue? (itemsAt answer ["CallbackMetadata", "Item"]) "Name" "Amount"
    | none => (document.member? "Result").bind fun result ↦
      (result.scalarAt? ["ConversationID"]).bind fun _ ↦
        namedValue? (itemsAt result ["ResultParameters", "ResultParameter"]) "Key"
          "TransactionAmount"

theorem readPromptAnswer_amount (receivedAt : Instant) (payload : String) (answer : Json) :
    (readPromptAnswer receivedAt payload answer).toOption.bind Notice.amount =
      (answer.scalarAt? ["CheckoutRequestID"]).bind fun _ ↦
        namedValue? (itemsAt answer ["CallbackMetadata", "Item"]) "Name" "Amount" := by
  rw [readPromptAnswer]
  cases answer.scalarAt? ["CheckoutRequestID"] <;> rfl

theorem readPayoutResult_amount (receivedAt : Instant) (payload : String) (result : Json) :
    (readPayoutResult receivedAt payload result).toOption.bind Notice.amount =
      (result.scalarAt? ["ConversationID"]).bind fun _ ↦
        namedValue? (itemsAt result ["ResultParameters", "ResultParameter"]) "Key"
          "TransactionAmount" := by
  rw [readPayoutResult]
  cases result.scalarAt? ["ConversationID"] <;> rfl

theorem readNotice_amount (receivedAt : Instant) (payload : ByteArray) :
    (readNotice receivedAt payload).toOption.bind Notice.amount = writtenAmount? payload := by
  rw [readNotice, writtenAmount?, Payload.readDocument]
  cases Json.documentOfBytes? payload with
  | none => rfl
  | some document =>
    rw [ok_bind, Option.bind_some]
    dsimp only
    cases document.at? ["Body", "stkCallback"] with
    | some answer => exact readPromptAnswer_amount receivedAt _ answer
    | none =>
      cases document.member? "Result" with
      | some result => exact readPayoutResult_amount receivedAt _ result
      | none => rfl

end Mpesa

namespace Tigo

/-- The text of the amount of a payload, if it has everything that has to come before. -/
def writtenAmount? (payload : ByteArray) : Option String :=
  (String.fromUTF8? payload).bind fun text ↦
    (Markup.extract? text "TXNID").bind fun _ ↦
      (Markup.extract? text "STATUS").bind fun _ ↦ Markup.extract? text "AMOUNT"

theorem readNotice_amount (receivedAt : Instant) (payload : ByteArray) :
    (readNotice receivedAt payload).toOption.bind Notice.amount = writtenAmount? payload := by
  rw [readNotice, writtenAmount?, readText]
  cases String.fromUTF8? payload with
  | none => rfl
  | some text =>
    rw [ok_bind, Option.bind_some]
    dsimp only
    cases Markup.extract? text "TXNID" with
    | none => rfl
    | some id => cases Markup.extract? text "STATUS" <;> rfl

end Tigo

namespace Provider

/-- The text of the amount of a payload, if it has everything that has to come before.  Airtel Money
writes none. -/
def writtenAmount? : Provider → ByteArray → Option String
  | mpesa => Mpesa.writtenAmount?
  | airtelMoney => fun _ ↦ none
  | tigoPesa => Tigo.writtenAmount?

/-- The reading of a payload comes to an amount that a machine cannot compute. -/
def LosesAmount (capacity : Nat) (provider : Provider) (payload : ByteArray) : Prop :=
  ∃ text, provider.writtenAmount? payload = some text ∧ Money.IsLostText capacity text

variable {receivedAt : Instant} {payload : ByteArray}

theorem parseCallback?_eq_none_iff :
    provider.parseCallback? capacity receivedAt payload = none ↔
      provider.LosesAmount capacity payload := by
  cases provider with
  | mpesa =>
    rw [LosesAmount, writtenAmount?, ← Mpesa.readNotice_amount receivedAt]
    exact Notice.andThen?_complete?_eq_none_iff
  | airtelMoney => simp [parseCallback?, LosesAmount, writtenAmount?]
  | tigoPesa =>
    rw [LosesAmount, writtenAmount?, ← Tigo.readNotice_amount receivedAt]
    exact Notice.andThen?_complete?_eq_none_iff

/-- A machine reads what is read without a limit, or is aborted. -/
theorem parseCallback?_eq_some {result : Except PaymentError CallbackEvent}
    (h : provider.parseCallback? capacity receivedAt payload = some result) :
    result = provider.parseCallback receivedAt payload := by
  cases provider with
  | mpesa => exact Notice.andThen?_complete?_eq_some h
  | airtelMoney => exact (Option.some.inj h).symm
  | tigoPesa => exact Notice.andThen?_complete?_eq_some h

/-- A payload is refused with a complaint of the rail, or read as an event of the rail. -/
def IsAnswered (capacity : Nat) (provider : Provider) (receivedAt : Instant)
    (payload : ByteArray) : Prop :=
  (∃ complaint, provider.parseCallback? capacity receivedAt payload =
    some (.error (.callback provider complaint))) ∨
  ∃ event, provider.parseCallback? capacity receivedAt payload = some (.ok event) ∧
    IsEventOf provider payload event

/-- **Notifications are answered unless their amount is lost.**  The reading of a payload is aborted
exactly where it comes to an amount that the machine cannot compute.  Every other payload is refused
with a complaint of the rail, or read as an event of the rail. -/
theorem answers_unless_lost (capacity : Nat) (provider : Provider) (receivedAt : Instant)
    (payload : ByteArray) :
    (provider.parseCallback? capacity receivedAt payload = none ↔
      provider.LosesAmount capacity payload) ∧
    (provider.LosesAmount capacity payload ∨ provider.IsAnswered capacity receivedAt payload) := by
  refine ⟨parseCallback?_eq_none_iff, ?_⟩
  cases hresult : provider.parseCallback? capacity receivedAt payload with
  | none => exact .inl (parseCallback?_eq_none_iff.mp hresult)
  | some result =>
    right
    rw [IsAnswered, hresult, parseCallback?_eq_some hresult]
    obtain ⟨complaint, hrefused⟩ | ⟨event, hread, hevent⟩ :=
      provider.parseCallback_total receivedAt payload
    · exact .inl ⟨complaint, congrArg some hrefused⟩
    · exact .inr ⟨event, congrArg some hread, hevent⟩

/-- The answer to a prompt with an amount of ten to the power of `2 ^ 63`. -/
def hugePayment : ByteArray :=
  String.toUTF8 ("\x7b\"Body\":\x7b\"stkCallback\":\x7b\"CheckoutRequestID\":\"ws_CO_1\"," ++
    "\"ResultCode\":0,\"CallbackMetadata\":\x7b\"Item\":[\x7b\"Name\":\"Amount\"," ++
    "\"Value\":\"1e9223372036854775808\"\x7d]\x7d\x7d\x7d\x7d")

/-- The scale of the amount has no opposite, so it is lost whatever powers can be computed. -/
theorem not_exists_capacity_answers :
    ¬ ∃ capacity, ∀ (provider : Provider) (receivedAt : Instant) (payload : ByteArray),
      provider.IsAnswered capacity receivedAt payload := by
  rintro ⟨capacity, hall⟩
  have hwritten : mpesa.writtenAmount? hugePayment = some "1e9223372036854775808" := by
    decide +kernel
  have hread : Decimal.Exact.read? (Text.trim "1e9223372036854775808").toList =
      some ⟨false, 1, -9223372036854775808⟩ := by
    decide +kernel
  have hlost : mpesa.LosesAmount capacity hugePayment :=
    ⟨_, hwritten, _, hread, by decide, rfl, .inl (by decide)⟩
  have hanswered := hall mpesa ⟨0, 0, by decide⟩ hugePayment
  rw [IsAnswered, parseCallback?_eq_none_iff.mpr hlost] at hanswered
  simp at hanswered

end Provider

/-! ## Registered rails -/

namespace Registry

variable {registry : Registry} {receivedAt : Instant} {payload : ByteArray}
  {signature : Option String}

/-- Only what is signed as the account demands can abort the processing of a notification. -/
theorem processCallback?_eq_none_iff :
    registry.processCallback? capacity provider receivedAt payload signature = none ↔
      ∃ account, registry.account? provider = some account ∧
        Signature.verify payload signature account.callbackSecret = true ∧
        provider.LosesAmount capacity payload := by
  rw [processCallback?, Payload.andThen?_eq_none_iff]
  cases haccount : registry.account? provider with
  | none => simp [authenticate_of_absent haccount]
  | some account =>
    obtain rfl := registry.keyed provider account haccount
    rw [authenticate_of_registered haccount]
    by_cases hverified : Signature.verify payload signature account.callbackSecret = true <;>
      simp [hverified, Provider.parseCallback?_eq_none_iff]

theorem processCallback?_eq_some {result : Except PaymentError CallbackEvent}
    (h : registry.processCallback? capacity provider receivedAt payload signature = some result) :
    result = registry.processCallback provider receivedAt payload signature :=
  Payload.andThen?_eq_some (fun _ haccount ↦ Provider.parseCallback?_eq_some haccount) h

end Registry

end MobileMoney
