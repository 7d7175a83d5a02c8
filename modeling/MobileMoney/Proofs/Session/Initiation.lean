import MobileMoney.Payment.Response
import MobileMoney.Proofs.Except
import MobileMoney.Proofs.Session.Sending

/-!
# Initiations

A call that asks a rail for money exchanges a token where it needs one, sends one request, and reads
the answer.  `Initiates` says so of what it sends; the rules build such a call from a request for a
token, a request for money, and checks before and after them.
-/

namespace MobileMoney

open Call

variable {α β : Type} {exchange? : Option Request} {asks : Request → Prop} {most : Nat}
  {accepts accepts' : Nat → String → Prop} {fits : Nat → String → α → Prop}
  {fits' : Nat → String → β → Prop}

/-- Token exchanges, and after them at most one request for money.  There is a value exactly when
that request has been answered in an accepted way, and then the value fits the answer. -/
inductive Initiates (exchange? : Option Request) (asks : Request → Prop) (most : Nat)
    (accepts : Nat → String → Prop) (fits : Nat → String → α → Prop) :
    List Exchange → Outcome α → Prop
  | stopped {exchanges : List Exchange} {outcome : Outcome α}
      (tokens : ∀ e ∈ exchanges, exchange? = some e.request) (few : exchanges.length ≤ most)
      (fruitless : ∀ value, outcome ≠ .done value) :
      Initiates exchange? asks most accepts fits exchanges outcome
  | asked {exchanges : List Exchange} {e : Exchange} {outcome : Outcome α}
      (tokens : ∀ e ∈ exchanges, exchange? = some e.request) (few : exchanges.length ≤ most)
      (request : asks e.request)
      (answered : ∀ value, outcome = .done value → ∃ status body,
        e.delivery = .answered status body ∧ accepts status body ∧ fits status body value)
      (completed : ∀ status body, e.delivery = .answered status body → accepts status body →
        ∃ value, outcome = .done value) :
      Initiates exchange? asks most accepts fits (exchanges ++ [e]) outcome

/-- A POST to a URL. -/
def IsPostTo (url? : Option String) (request : Request) : Prop :=
  request.method = .post ∧ url? = some request.url

def IsAnyAnswer (_ : Nat) (_ : String) : Prop :=
  True

/-- A reply that hands on the answer it was made from. -/
def IsReply (status : Nat) (body : String) (reply : Reply) : Prop :=
  reply.status = status ∧ reply.body = body

/-- A success whose body takes the request on. -/
structure IsTakenOn (accepts : String → Bool) (status : Nat) (body : String) : Prop where
  least : 200 ≤ status
  most : status < 300
  accepted : accepts body = true

def IsPending (_ : Nat) (_ : String) (response : PaymentResponse) : Prop :=
  response.status = .pending

/-! ## Requests -/

theorem Call.reply_eq_done {provider : Provider} {delivery : Delivery} {answer : Reply}
    (h : reply provider delivery = .done answer) :
    ∃ status body, delivery = .answered status body ∧ IsAnyAnswer status body ∧
      IsReply status body answer := by
  cases delivery with
  | answered status body =>
    obtain rfl := Outcome.done.inj h
    exact ⟨status, body, rfl, trivial, rfl, rfl⟩
  | unreachable => nomatch h
  | dropped => nomatch h
  | cutShort => nomatch h

/-- A request for money, without exchanges before it. -/
theorem initiates_submit {call : Call Reply} {provider : Provider} {request : Request}
    (hcall : call.Sends (Submits provider request)) (hasks : asks request) :
    call.Sends (Initiates exchange? asks 0 IsAnyAnswer IsReply) := by
  apply hcall.mono
  intro sent outcome h
  cases h with
  | withheld error => exact .stopped (by simp) (Nat.le_refl 0) (by simp)
  | delivered delivery =>
    refine .asked (List.forall_mem_nil _) (Nat.le_refl 0) hasks (fun _ h ↦ reply_eq_done h) ?_
    intro status body hdelivery _
    exact ⟨⟨provider, status, body⟩, congrArg (reply provider) hdelivery⟩

theorem Initiates.prepend {exchanges sent : List Exchange} {outcome : Outcome α}
    (h : Initiates exchange? asks 0 accepts fits sent outcome)
    (htokens : ∀ e ∈ exchanges, exchange? = some e.request) (hfew : exchanges.length ≤ most) :
    Initiates exchange? asks most accepts fits (exchanges ++ sent) outcome := by
  cases h with
  | stopped _ few fruitless =>
    obtain rfl := List.eq_nil_of_length_eq_zero (Nat.le_zero.mp few)
    rw [List.append_nil]
    exact .stopped htokens hfew fruitless
  | asked _ few request answered completed =>
    obtain rfl := List.eq_nil_of_length_eq_zero (Nat.le_zero.mp few)
    rw [List.nil_append]
    exact .asked htokens hfew request answered completed

/-- A token in front of a request for money. -/
theorem initiates_authorized {exchangeRequest : Request} {token : Call String}
    {next : String → Call α}
    (htoken : token.Sends fun sent _ ↦ OnlyAsks exchangeRequest most sent)
    (hnext : ∀ token, (next token).Sends (Initiates (some exchangeRequest) asks 0 accepts fits)) :
    (token >>= next).Sends (Initiates (some exchangeRequest) asks most accepts fits) := by
  have hsame {sent : List Exchange} (hsent : OnlyAsks exchangeRequest most sent) :
      ∀ e ∈ sent, some exchangeRequest = some e.request :=
    fun e he ↦ congrArg some (hsent.same e he).symm
  apply htoken.bind
  · intro sent token hsent
    apply (hnext token).mono
    intro rest outcome hrest
    exact hrest.prepend (hsame hsent) hsent.few
  · intro sent error hsent
    exact .stopped (hsame hsent) hsent.few (by simp)
  · intro sent hsent
    exact .stopped (hsame hsent) hsent.few (by simp)

/-! ## Checks -/

theorem Call.ofExcept_sends (result : Except PaymentError α) :
    (ofExcept result).Sends fun sent outcome ↦
      sent = [] ∧ ∀ value, outcome = .done value ↔ result = .ok value := by
  intro world session
  refine ⟨[], ?_, rfl, fun value ↦ ?_⟩
  · cases result <;> exact (List.append_nil _).symm
  · cases result <;> simp [ofExcept, pure, throw, throwThe, MonadExceptOf.throw]

/-- A step before anything is sent. -/
theorem initiates_after {call : Call β} {next : β → Call α} (hcall : call.IsSilent)
    (hnext : ∀ value, (next value).Sends (Initiates exchange? asks most accepts fits)) :
    (call >>= next).Sends (Initiates exchange? asks most accepts fits) := by
  apply hcall.bind_sends hnext
  · intro error
    exact .stopped (by simp) (by simp) (by simp)
  · exact .stopped (by simp) (by simp) (by simp)

/-- Without a value there is nothing to look at, and no answer that would be accepted. -/
theorem Initiates.fruitless {sent : List Exchange} {outcome : Outcome α} {outcome' : Outcome β}
    (h : Initiates exchange? asks most accepts fits sent outcome)
    (hmore : ∀ status body, accepts' status body → accepts status body)
    (hnone : ∀ value, outcome ≠ .done value) (hnone' : ∀ value, outcome' ≠ .done value) :
    Initiates exchange? asks most accepts' fits' sent outcome' := by
  cases h with
  | stopped tokens few _ => exact .stopped tokens few hnone'
  | asked tokens few request _ completed =>
    refine .asked tokens few request (fun value h ↦ absurd h (hnone' value)) ?_
    intro status body hdelivery htaken
    obtain ⟨value, hvalue⟩ := completed status body hdelivery (hmore status body htaken)
    exact absurd hvalue (hnone value)

/-- A look at the value of an initiation. -/
theorem initiates_checked {call : Call α} {check : α → Except PaymentError β}
    (hcall : call.Sends (Initiates exchange? asks most accepts fits))
    (hmore : ∀ status body, accepts' status body → accepts status body)
    (hcheck : ∀ status body value, accepts status body → fits status body value →
      ((∃ found, check value = .ok found) ↔ accepts' status body))
    (hfits : ∀ status body value found, fits status body value → check value = .ok found →
      fits' status body found) :
    (call >>= fun value ↦ Call.ofExcept (check value)).Sends
      (Initiates exchange? asks most accepts' fits') := by
  apply hcall.bind
  · intro sent value hsent
    refine (ofExcept_sends (check value)).mono ?_
    intro rest outcome hrest
    rcases hrest with ⟨rfl, houtcome⟩
    rw [List.append_nil]
    cases hsent with
    | stopped _ _ fruitless => exact absurd rfl (fruitless value)
    | asked tokens few request answered completed =>
      obtain ⟨status, body, hdelivery, haccepts, hvalue⟩ := answered value rfl
      have hchecked := hcheck status body value haccepts hvalue
      refine .asked tokens few request (fun found hfound ↦ ?_) fun status' body' hanswer htaken ↦ ?_
      · have hok := (houtcome found).mp hfound
        exact ⟨status, body, hdelivery, hchecked.mp ⟨found, hok⟩, hfits _ _ _ _ hvalue hok⟩
      · obtain ⟨rfl, rfl⟩ := Delivery.answered.inj (hdelivery.symm.trans hanswer)
        obtain ⟨found, hok⟩ := hchecked.mpr htaken
        exact ⟨found, (houtcome found).mpr hok⟩
  · intro sent error hsent
    exact hsent.fruitless hmore (by simp) (by simp)
  · intro sent hsent
    exact hsent.fruitless hmore (by simp) (by simp)

/-- A failed check is the whole call. -/
theorem Call.ofExcept_refused {result : Except PaymentError α} {error : PaymentError}
    (h : result = .error error) (next : α → Call β) (world : World) (session : Session) :
    (ofExcept result >>= next) world session = (.failed error, session) := by
  rw [h]
  rfl

/-- Two checks in a row, of which one fails. -/
theorem Call.ofExcept_ofExcept_refused {γ : Type} {first : Except PaymentError α}
    {second : Except PaymentError β}
    (h : (∃ error, first = .error error) ∨ ∃ error, second = .error error)
    (next : α → β → Call γ) (world : World) (session : Session) :
    ∃ error, (ofExcept first >>= fun a ↦ ofExcept second >>= next a) world session =
      (.failed error, session) := by
  cases hfirst : first with
  | error error => exact ⟨error, rfl⟩
  | ok found =>
    obtain ⟨error, herror⟩ := h.resolve_left (by simp [hfirst])
    exact ⟨error, ofExcept_refused herror (next found) world session⟩

/-! ## Replies -/

theorem Reply.checked_eq_ok {reply checked : Reply} :
    reply.checked = .ok checked ↔ reply.isSuccess = true ∧ reply = checked := by
  by_cases h : reply.isSuccess <;> simp [Reply.checked, h]

theorem Reply.document_eq_ok {reply : Reply} {document : Json} :
    reply.document = .ok document ↔ Json.document? reply.body = some document := by
  cases h : Json.document? reply.body <;> simp [Reply.document, h]

theorem Reply.record_eq_ok {reply : Reply} {read : Json → Option α} {value : α} :
    reply.record read = .ok value ↔ (Json.parse? reply.body.toList).bind read = some value := by
  cases h : (Json.parse? reply.body.toList).bind read <;> simp [Reply.record, h]

theorem Reply.isSuccess_iff {reply : Reply} :
    reply.isSuccess = true ↔ 200 ≤ reply.status ∧ reply.status < 300 := by
  simp [Reply.isSuccess]

end MobileMoney
