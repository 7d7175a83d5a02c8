import MobileMoney.Proofs.Callback.Identifier
import MobileMoney.Proofs.Money.Parsing
import MobileMoney.Proofs.Text.Lossy

/-!
# What is read of notifications

Whatever bytes arrive, a rail either complains about the notification or reads an event out of it,
if it can compute every amount.  The event is the rail's own and holds together: it has an
identifier without blanks at its ends, the payload as it arrived, an amount in no other currency
than the rail's, and no success that the payload does not state.
-/

namespace MobileMoney

variable {α β : Type} {provider : Provider}

/-! ## Steps of a reading -/

/-- A step of a reading either gives something that fits, or complains about the notification in the
name of the rail. -/
def Reads (provider : Provider) (fits : α → Prop) : Except PaymentError α → Prop
  | .ok value => fits value
  | .error error => ∃ complaint, error = .callback provider complaint

theorem Reads.bind {step : Except PaymentError α} {next : α → Except PaymentError β}
    {fits : α → Prop} {goal : β → Prop} (hstep : Reads provider fits step)
    (hnext : ∀ value, fits value → Reads provider goal (next value)) :
    Reads provider goal (step >>= next) := by
  cases step with
  | ok value => exact hnext value hstep
  | error error => exact hstep

theorem reads_require (complaint : String) (found : Option α) :
    Reads provider (found = some ·) (Payload.require provider complaint found) := by
  cases found with
  | some value => exact rfl
  | none => exact ⟨complaint, rfl⟩

/-- A document that is read was written in UTF-8, and nothing of its text is replaced. -/
theorem reads_readDocument (payload : ByteArray) :
    Reads provider
      (fun read ↦ Json.documentOfBytes? payload = some read.1 ∧
        String.fromUTF8? payload = some read.2)
      (Payload.readDocument provider payload) := by
  cases hdocument : Json.documentOfBytes? payload with
  | none =>
    rw [Payload.readDocument, hdocument]
    exact ⟨_, rfl⟩
  | some document =>
    rw [Payload.readDocument, hdocument]
    obtain ⟨text, htext, -⟩ := Option.bind_eq_some_iff.mp hdocument
    exact ⟨rfl, htext.trans (congrArg some (Text.lossy_of_fromUTF8? htext).symm)⟩

theorem Tigo.reads_readText (payload : ByteArray) :
    Reads .tigoPesa (String.fromUTF8? payload = some ·) (readText payload) := by
  cases htext : String.fromUTF8? payload with
  | none =>
    rw [readText, htext]
    exact ⟨_, rfl⟩
  | some text =>
    rw [readText, htext]
    exact rfl

/-! ## Amounts -/

/-- An amount is read in the currency that is asked for. -/
theorem reads_readAmount {currency : String} (hcode : IsCurrencyCode currency)
    (text : Option String) :
    Reads provider (fun amount : Option Money ↦ ∀ money ∈ amount, money.currency.code = currency)
      (Payload.readAmount provider currency text) := by
  cases text with
  | none => exact fun _ hmoney ↦ nomatch hmoney
  | some text =>
    cases hmoney : Money.ofMajorText text currency with
    | error error =>
      rw [Payload.readAmount, hmoney]
      exact ⟨_, rfl⟩
    | ok money =>
      rw [Payload.readAmount, hmoney, Payload.amountOf]
      rintro _ ⟨⟩
      rw [(Money.ofMajorText_eq_ok_iff.mp hmoney).1, Currency.normalize_of_isCurrencyCode hcode]

/-! ## Identifiers -/

/-- A text with something in it and no blanks at its ends. -/
structure IsTrimmed (s : String) : Prop where
  trim_eq : Text.trim s = s
  ne_empty : s ≠ ""

theorem Text.isTrimmed_of_content? {s content : String} (h : content? s = some content) :
    IsTrimmed content := by
  obtain ⟨hne, rfl⟩ := content?_eq_some_iff.mp h
  exact ⟨trim_trim s, hne⟩

theorem Json.isTrimmed_of_scalarAt? {document : Json} {path : List String} {content : String}
    (h : document.scalarAt? path = some content) : IsTrimmed content := by
  rw [scalarAt?_eq] at h
  obtain ⟨text, -, hcontent⟩ := Option.bind_eq_some_iff.mp h
  exact Text.isTrimmed_of_content? hcontent

/-- Unescaping neither empties a trimmed text nor puts blanks at its ends. -/
theorem Tigo.isTrimmed_of_content? {s content : String} (h : content? s = some content) :
    IsTrimmed content := by
  obtain ⟨trimmed, htrimmed, rfl⟩ := Option.map_eq_some_iff.mp h
  obtain ⟨hne, rfl⟩ := Text.content?_eq_some_iff.mp htrimmed
  exact ⟨Markup.trim_unescape_trim s, fun hempty ↦ hne (Markup.unescape_eq_empty hempty)⟩

theorem Tigo.isTrimmed_of_extract? {text tag content : String}
    (h : Markup.extract? text tag = some content) : IsTrimmed content := by
  rw [extract?_eq] at h
  obtain ⟨inner, -, hcontent⟩ := Option.bind_eq_some_iff.mp h
  exact isTrimmed_of_content? hcontent

/-! ## Results -/

/-- The leaf at the end of a path is found in the member with which the path begins. -/
theorem Json.leafTextAt?_cons {name : String} {document member : Json}
    (h : document.member? name = some member) (rest : List String) :
    document.leafTextAt? (name :: rest) = member.leafTextAt? rest := by
  simp only [leafTextAt?, at?, List.foldlM_cons, h, Option.bind_eq_bind, Option.bind_some]

/-- The text of the result code in a notification: of the answer to a prompt if there is one. -/
def Mpesa.callbackResult? (payload : ByteArray) : Option String :=
  (Json.documentOfBytes? payload).bind fun document ↦
    match document.at? ["Body", "stkCallback"] with
    | some answer => answer.leafTextAt? ["ResultCode"]
    | none => document.leafTextAt? ["Result", "ResultCode"]

def Airtel.callbackResult? (payload : ByteArray) : Option String :=
  (Json.documentOfBytes? payload).bind (·.leafTextAt? ["transaction", "status_code"])

/-- The text of the status in a notification, as it stands between the tags. -/
def Tigo.callbackResult? (payload : ByteArray) : Option String :=
  (String.fromUTF8? payload).bind (innerText? "STATUS")

namespace Provider

/-- The text in the place where a notification states its result, as it stands there. -/
def callbackResult? : Provider → ByteArray → Option String
  | mpesa => Mpesa.callbackResult?
  | airtelMoney => Airtel.callbackResult?
  | tigoPesa => Tigo.callbackResult?

/-- The currency of the amounts in notifications, where they carry amounts. -/
def callbackCurrency? : Provider → Option String
  | mpesa => some "KES"
  | airtelMoney => none
  | tigoPesa => some "TZS"

/-- What has a content is not blank, on every rail. -/
theorem not_isBlankText_of_content? {text content : String}
    (h : provider.content? text = some content) : Text.isBlankText text = false := by
  have hcontent : ∃ content, Text.content? text = some content := by
    cases provider with
    | mpesa => exact ⟨content, h⟩
    | airtelMoney => exact ⟨content, h⟩
    | tigoPesa =>
      obtain ⟨trimmed, htrimmed, -⟩ := Option.map_eq_some_iff.mp h
      exact ⟨trimmed, htrimmed⟩
  obtain ⟨found, hfound⟩ := hcontent
  have hne := (Text.content?_eq_some_iff.mp hfound).1
  rwa [ne_eq, Text.trim_eq_empty_iff, Bool.not_eq_true] at hne

end Provider

/-! ## Events -/

/-- What an event has in common with the payload that it was read from. -/
structure IsEventOf (provider : Provider) (payload : ByteArray) (event : CallbackEvent) :
    Prop where
  provider_eq : event.provider = provider
  transactionId : IsTrimmed event.transactionId
  payload_toUTF8 : event.payload.toUTF8 = payload
  payload_lossy : Text.lossy payload = event.payload
  amount : ∀ money ∈ event.amount, provider.callbackCurrency? = some money.currency.code
  resultCode : event.resultCode = (provider.callbackResult? payload).bind provider.content?
  succeeded : event.status = .succeeded →
    ∃ text, provider.callbackResult? payload = some text ∧ Text.isBlankText text = false

/-- An event without an amount whose success rests on a result code, which is what the payload
states. -/
theorem IsEventOf.of_resultCode {payload : ByteArray} {event : CallbackEvent}
    (hprovider : event.provider = provider) (hid : IsTrimmed event.transactionId)
    (htext : String.fromUTF8? payload = some event.payload) (hamount : event.amount = none)
    (hcode : event.resultCode = (provider.callbackResult? payload).bind provider.content?)
    (hstatus : event.status = .succeeded → event.resultCode ≠ none) :
    IsEventOf provider payload event where
  provider_eq := hprovider
  transactionId := hid
  payload_toUTF8 := Text.toUTF8_of_fromUTF8? htext
  payload_lossy := Text.lossy_of_fromUTF8? htext
  amount := by
    rw [hamount]
    exact fun _ hmoney ↦ nomatch hmoney
  resultCode := hcode
  succeeded := by
    intro hsucceeded
    obtain ⟨content, hcontent⟩ := Option.ne_none_iff_exists'.mp (hstatus hsucceeded)
    rw [hcode] at hcontent
    obtain ⟨text, htext, hcontent⟩ := Option.bind_eq_some_iff.mp hcontent
    exact ⟨text, htext, Provider.not_isBlankText_of_content? hcontent⟩

theorem IsEventOf.withAmount {payload : ByteArray} {event : CallbackEvent}
    (h : IsEventOf provider payload event) {amount : Option Money}
    (hamount : ∀ money ∈ amount, provider.callbackCurrency? = some money.currency.code) :
    IsEventOf provider payload (event.withAmount amount) where
  provider_eq := h.provider_eq
  transactionId := h.transactionId
  payload_toUTF8 := h.payload_toUTF8
  payload_lossy := h.payload_lossy
  amount := hamount
  resultCode := h.resultCode
  succeeded := h.succeeded

/-- A notice that is an event of a payload but for its amount. -/
def IsNoticeOf (provider : Provider) (payload : ByteArray) (notice : Notice) : Prop :=
  IsEventOf provider payload notice.event

theorem IsNoticeOf.complete_reads {payload : ByteArray} {notice : Notice} {currency : String}
    (h : IsNoticeOf provider payload notice) (hcode : IsCurrencyCode currency)
    (hcurrency : provider.callbackCurrency? = some currency) :
    Reads provider (IsEventOf provider payload) (notice.complete currency) := by
  rw [Notice.complete, h.provider_eq]
  refine (reads_readAmount hcode notice.amount).bind fun amount hamount ↦ ?_
  exact h.withAmount fun money hmoney ↦ hcurrency.trans (congrArg some (hamount money hmoney).symm)

namespace Mpesa

theorem ne_none_of_statusOfCode {code : Option String} (h : statusOfCode code = .succeeded) :
    code ≠ none := by
  rintro rfl
  contradiction

variable {payload : ByteArray} {text : String}

/-- An event that is built from the part of a notification where the result stands. -/
theorem isEventOf_of_part {part : Json} {event : CallbackEvent}
    (hresult : callbackResult? payload = part.leafTextAt? ["ResultCode"])
    (hprovider : event.provider = .mpesa) (hid : IsTrimmed event.transactionId)
    (htext : String.fromUTF8? payload = some event.payload) (hamount : event.amount = none)
    (hcode : event.resultCode = part.scalarAt? ["ResultCode"])
    (hstatus : event.status = statusOfCode event.resultCode) : IsEventOf .mpesa payload event := by
  apply IsEventOf.of_resultCode hprovider hid htext hamount
  case hcode =>
    rw [hcode, Json.scalarAt?_eq, ← hresult]
    rfl
  case hstatus => exact fun hsucceeded ↦ ne_none_of_statusOfCode (hstatus.symm.trans hsucceeded)

theorem readPromptAnswer_reads (receivedAt : Instant) {answer : Json}
    (htext : String.fromUTF8? payload = some text)
    (hresult : callbackResult? payload = answer.leafTextAt? ["ResultCode"]) :
    Reads .mpesa (IsNoticeOf .mpesa payload) (readPromptAnswer receivedAt text answer) := by
  refine (reads_require _ _).bind fun id hid ↦ ?_
  exact isEventOf_of_part hresult rfl (Json.isTrimmed_of_scalarAt? hid) htext rfl rfl rfl

theorem readPayoutResult_reads (receivedAt : Instant) {result : Json}
    (htext : String.fromUTF8? payload = some text)
    (hresult : callbackResult? payload = result.leafTextAt? ["ResultCode"]) :
    Reads .mpesa (IsNoticeOf .mpesa payload) (readPayoutResult receivedAt text result) := by
  refine (reads_require _ _).bind fun id hid ↦ ?_
  exact isEventOf_of_part hresult rfl (Json.isTrimmed_of_scalarAt? hid) htext rfl rfl rfl

theorem readNotice_reads (receivedAt : Instant) (payload : ByteArray) :
    Reads .mpesa (IsNoticeOf .mpesa payload) (readNotice receivedAt payload) := by
  refine (reads_readDocument payload).bind fun read ⟨hdocument, htext⟩ ↦ ?_
  have hresult : callbackResult? payload =
      match read.1.at? ["Body", "stkCallback"] with
      | some answer => answer.leafTextAt? ["ResultCode"]
      | none => read.1.leafTextAt? ["Result", "ResultCode"] := by
    rw [callbackResult?, hdocument, Option.bind_some]
  dsimp only
  split
  · next answer hanswer =>
    rw [hanswer] at hresult
    exact readPromptAnswer_reads receivedAt htext hresult
  · next hnone =>
    rw [hnone] at hresult
    split
    · next result hmember =>
      apply readPayoutResult_reads receivedAt htext
      exact hresult.trans (Json.leafTextAt?_cons hmember ["ResultCode"])
    · exact ⟨_, rfl⟩

theorem parseCallback_reads (receivedAt : Instant) (payload : ByteArray) :
    Reads .mpesa (IsEventOf .mpesa payload) (parseCallback receivedAt payload) :=
  (readNotice_reads receivedAt payload).bind fun _ hnotice ↦
    hnotice.complete_reads (by decide) rfl

end Mpesa

namespace Airtel

theorem ne_none_of_statusOfCode {code : Option String} (h : statusOfCode code = .succeeded) :
    code ≠ none := by
  rintro rfl
  contradiction

theorem parseCallback_reads (receivedAt : Instant) (payload : ByteArray) :
    Reads .airtelMoney (IsEventOf .airtelMoney payload) (parseCallback receivedAt payload) := by
  refine (reads_readDocument payload).bind fun read ⟨hdocument, htext⟩ ↦ ?_
  refine (reads_require _ _).bind fun transaction htransaction ↦ ?_
  refine (reads_require _ _).bind fun id hid ↦ ?_
  have hresult : callbackResult? payload = transaction.leafTextAt? ["status_code"] := by
    rw [callbackResult?, hdocument, Option.bind_some, Json.leafTextAt?_cons htransaction]
  apply IsEventOf.of_resultCode
  case hprovider => rfl
  case hid => exact Json.isTrimmed_of_scalarAt? hid
  case htext => exact htext
  case hamount => rfl
  case hcode => exact (Json.scalarAt?_eq _ _).trans (congrArg (·.bind Text.content?) hresult.symm)
  case hstatus => exact ne_none_of_statusOfCode

end Airtel

namespace Tigo

theorem readNotice_reads (receivedAt : Instant) (payload : ByteArray) :
    Reads .tigoPesa (IsNoticeOf .tigoPesa payload) (readNotice receivedAt payload) := by
  refine (reads_readText payload).bind fun text htext ↦ ?_
  refine (reads_require _ _).bind fun id hid ↦ ?_
  refine (reads_require _ _).bind fun status hstatus ↦ ?_
  apply IsEventOf.of_resultCode
  case hprovider => rfl
  case hid => exact isTrimmed_of_extract? hid
  case htext => exact htext
  case hamount => rfl
  case hcode =>
    have hinner : (innerText? "STATUS" text).bind content? = some status :=
      (extract?_eq text "STATUS").symm.trans hstatus
    rw [Provider.callbackResult?, callbackResult?, htext, Option.bind_some]
    exact hinner.symm
  case hstatus => exact fun _ ↦ Option.some_ne_none status

theorem parseCallback_reads (receivedAt : Instant) (payload : ByteArray) :
    Reads .tigoPesa (IsEventOf .tigoPesa payload) (parseCallback receivedAt payload) :=
  (readNotice_reads receivedAt payload).bind fun _ hnotice ↦
    hnotice.complete_reads (by decide) rfl

end Tigo

/-- Where every amount can be computed, every payload is refused with a complaint of the rail, or
read as an event of the rail. -/
theorem Provider.parseCallback_total (provider : Provider) (receivedAt : Instant)
    (payload : ByteArray) :
    (∃ complaint,
      provider.parseCallback receivedAt payload = .error (.callback provider complaint)) ∨
    ∃ event, provider.parseCallback receivedAt payload = .ok event ∧
      IsEventOf provider payload event := by
  have hreads : Reads provider (IsEventOf provider payload)
      (provider.parseCallback receivedAt payload) := by
    cases provider with
    | mpesa => exact Mpesa.parseCallback_reads receivedAt payload
    | airtelMoney => exact Airtel.parseCallback_reads receivedAt payload
    | tigoPesa => exact Tigo.parseCallback_reads receivedAt payload
  cases hresult : provider.parseCallback receivedAt payload with
  | error error =>
    rw [hresult] at hreads
    obtain ⟨complaint, rfl⟩ := hreads
    exact .inl ⟨complaint, rfl⟩
  | ok event =>
    rw [hresult] at hreads
    exact .inr ⟨event, rfl, hreads⟩

end MobileMoney
