import MobileMoney.Proofs.Callback.Authentication

/-!
# Repeated and forged notifications

A payment is followed through the notifications that arrive for it, in the order of their arrival.
The first one that is accepted with a terminal status settles it.  From then on nothing that arrives
is observed any more, whatever is delivered late, again or by somebody else.
-/

namespace MobileMoney

/-! ## The time of an arrival -/

def CallbackEvent.stamp (receivedAt : Instant) (event : CallbackEvent) : CallbackEvent :=
  { event with receivedAt }

theorem Mpesa.readPromptAnswer_stamp (earlier later : Instant) (payload : String)
    (answer : Json) :
    readPromptAnswer later payload answer =
      (readPromptAnswer earlier payload answer).map (Notice.mapEvent (.stamp later)) := by
  simp only [readPromptAnswer, map_bind, map_pure, Notice.mapEvent, CallbackEvent.stamp]

theorem Mpesa.readPayoutResult_stamp (earlier later : Instant) (payload : String)
    (result : Json) :
    readPayoutResult later payload result =
      (readPayoutResult earlier payload result).map (Notice.mapEvent (.stamp later)) := by
  simp only [readPayoutResult, map_bind, map_pure, Notice.mapEvent, CallbackEvent.stamp]

theorem Mpesa.readNotice_stamp (earlier later : Instant) (payload : ByteArray) :
    readNotice later payload =
      (readNotice earlier payload).map (Notice.mapEvent (.stamp later)) := by
  rw [readNotice, readNotice, map_bind]
  apply bind_congr
  rintro ⟨document, text⟩
  dsimp only
  split
  · exact readPromptAnswer_stamp earlier later text _
  · split
    · exact readPayoutResult_stamp earlier later text _
    · rfl

theorem Mpesa.parseCallback_stamp (earlier later : Instant) (payload : ByteArray) :
    parseCallback later payload =
      (parseCallback earlier payload).map (CallbackEvent.stamp later) :=
  Notice.complete_of_mapEvent (readNotice_stamp earlier later payload) (fun _ ↦ rfl) fun _ _ ↦ rfl

theorem Airtel.parseCallback_stamp (earlier later : Instant) (payload : ByteArray) :
    parseCallback later payload =
      (parseCallback earlier payload).map (CallbackEvent.stamp later) := by
  simp only [parseCallback, map_bind, map_pure, CallbackEvent.stamp]

theorem Tigo.readNotice_stamp (earlier later : Instant) (payload : ByteArray) :
    readNotice later payload =
      (readNotice earlier payload).map (Notice.mapEvent (.stamp later)) := by
  simp only [readNotice, map_bind, map_pure, Notice.mapEvent, CallbackEvent.stamp]

theorem Tigo.parseCallback_stamp (earlier later : Instant) (payload : ByteArray) :
    parseCallback later payload =
      (parseCallback earlier payload).map (CallbackEvent.stamp later) :=
  Notice.complete_of_mapEvent (readNotice_stamp earlier later payload) (fun _ ↦ rfl) fun _ _ ↦ rfl

/-- The time of an arrival is noted in the event and has no other effect. -/
theorem Provider.parseCallback_stamp (provider : Provider) (earlier later : Instant)
    (payload : ByteArray) :
    provider.parseCallback later payload =
      (provider.parseCallback earlier payload).map (CallbackEvent.stamp later) := by
  cases provider with
  | mpesa => exact Mpesa.parseCallback_stamp earlier later payload
  | airtelMoney => exact Airtel.parseCallback_stamp earlier later payload
  | tigoPesa => exact Tigo.parseCallback_stamp earlier later payload

/-! ## Following a payment -/

/-- The status after another one has been observed, or the same one where the move is refused. -/
def PaymentStatus.observe (current next : PaymentStatus) : PaymentStatus :=
  match current.transition next with
  | .ok status => status
  | .error _ => current

theorem PaymentStatus.eq_pending_or_isTerminal (status : PaymentStatus) :
    status = pending ∨ status.isTerminal = true := by
  simp [isTerminal, Decidable.em]

theorem PaymentStatus.observe_of_isTerminal {current : PaymentStatus}
    (h : current.isTerminal = true) (next : PaymentStatus) : current.observe next = current := by
  cases current <;> cases next <;> trivial

theorem PaymentStatus.observe_pending (next : PaymentStatus) : pending.observe next = next := rfl

/-- What comes after a terminal status is refused or changes nothing. -/
example :
    [.pending, .succeeded, .failed, .pending].foldl PaymentStatus.observe .pending = .succeeded :=
  rfl

/-- A notification with its signature, as it arrives from outside. -/
structure Arrival where
  receivedAt : Instant
  payload : ByteArray
  signature : Option String

/-- The same notification, whenever it arrives. -/
structure Arrival.IsCopyOf (copy original : Arrival) : Prop where
  payload : copy.payload = original.payload
  signature : copy.signature = original.signature

namespace Registry

variable (registry : Registry) (provider : Provider)

def answer (arrival : Arrival) : Except PaymentError CallbackEvent :=
  registry.processCallback provider arrival.receivedAt arrival.payload arrival.signature

/-- The status that an arrival reports, unless it is rejected. -/
def reported? (arrival : Arrival) : Option PaymentStatus :=
  match registry.answer provider arrival with
  | .ok event => some event.status
  | .error _ => none

/-- A payment after an arrival; it stays as it is if the arrival is rejected. -/
def observe (current : PaymentStatus) (arrival : Arrival) : PaymentStatus :=
  match registry.answer provider arrival with
  | .ok event => current.observe event.status
  | .error _ => current

/-- A payment that was pending, after a sequence of arrivals. -/
def follow (arrivals : List Arrival) : PaymentStatus :=
  arrivals.foldl (registry.observe provider) .pending

/-- A sequence of arrivals into which rejected ones are put anywhere, and copies after what they
are copies of. -/
inductive Padded : List Arrival → List Arrival → Prop
  | none (arrivals : List Arrival) : Padded arrivals arrivals
  | rejected {arrivals before after : List Arrival} {forged : Arrival} {error : PaymentError}
      (padded : Padded arrivals (before ++ after))
      (refused : registry.answer provider forged = .error error) :
      Padded arrivals (before ++ forged :: after)
  | copy {arrivals before after : List Arrival} {original copy : Arrival}
      (padded : Padded arrivals (before ++ after)) (mem : original ∈ before)
      (isCopy : copy.IsCopyOf original) :
      Padded arrivals (before ++ copy :: after)

variable {registry provider} {current status : PaymentStatus} {arrival original copy : Arrival}
  {arrivals more : List Arrival}

/-- What is not signed as the account demands is rejected. -/
theorem answer_of_not_verified {account : Account}
    (haccount : registry.account? provider = some account)
    (h : Signature.verify arrival.payload arrival.signature account.callbackSecret = false) :
    registry.answer provider arrival =
      .error (.callback provider (Signature.complaint arrival.signature)) := by
  rw [answer, processCallback_of_registered haccount, h]
  rfl

/-! ### One arrival -/

theorem observe_eq (current : PaymentStatus) (arrival : Arrival) :
    registry.observe provider current arrival =
      ((registry.reported? provider arrival).map current.observe).getD current := by
  rw [observe, reported?]
  cases registry.answer provider arrival <;> rfl

theorem reported?_of_error {error : PaymentError}
    (h : registry.answer provider arrival = .error error) :
    registry.reported? provider arrival = none := by
  rw [reported?, h]

theorem reported?_of_isCopyOf (h : copy.IsCopyOf original) :
    registry.reported? provider copy = registry.reported? provider original := by
  rw [reported?, reported?, answer, answer, h.payload, h.signature]
  cases haccount : registry.account? provider with
  | none => rw [processCallback_of_absent haccount, processCallback_of_absent haccount]
  | some account =>
    rw [processCallback_of_registered haccount, processCallback_of_registered haccount]
    by_cases hverified :
        Signature.verify original.payload original.signature account.callbackSecret = true
    · rw [if_pos hverified, if_pos hverified,
        provider.parseCallback_stamp original.receivedAt copy.receivedAt]
      cases provider.parseCallback original.receivedAt original.payload <;> rfl
    · rw [if_neg hverified, if_neg hverified]

/-- A settled payment is left as it is. -/
theorem observe_of_isTerminal (h : current.isTerminal = true) (arrival : Arrival) :
    registry.observe provider current arrival = current := by
  rw [observe_eq]
  cases registry.reported? provider arrival with
  | none => rfl
  | some next => exact PaymentStatus.observe_of_isTerminal h next

/-- What a pending payment is not moved by moves no payment. -/
theorem observe_of_observe_pending
    (h : registry.observe provider .pending arrival = .pending) (current : PaymentStatus) :
    registry.observe provider current arrival = current := by
  obtain rfl | hterminal := current.eq_pending_or_isTerminal
  · exact h
  · exact observe_of_isTerminal hterminal arrival

/-- A payment is moved at most once by an arrival and its copies. -/
theorem observe_observe_of_isCopyOf (h : copy.IsCopyOf original) (current : PaymentStatus) :
    registry.observe provider (registry.observe provider current original) copy =
      registry.observe provider current original := by
  have hcopy : ∀ status, registry.observe provider status copy =
      registry.observe provider status original := fun status ↦ by
    rw [observe_eq, observe_eq, reported?_of_isCopyOf h]
  rw [hcopy]
  obtain rfl | hterminal := current.eq_pending_or_isTerminal
  · obtain hpending | hmoved :=
      (registry.observe provider .pending original).eq_pending_or_isTerminal
    · exact observe_of_observe_pending hpending _
    · exact observe_of_isTerminal hmoved original
  · rw [observe_of_isTerminal hterminal, observe_of_isTerminal hterminal]

/-! ### Many arrivals -/

theorem foldl_observe_of_isTerminal (h : current.isTerminal = true) (arrivals : List Arrival) :
    arrivals.foldl (registry.observe provider) current = current := by
  induction arrivals with
  | nil => rfl
  | cons arrival rest ih => rw [List.foldl_cons, observe_of_isTerminal h, ih]

theorem follow_eq (arrivals : List Arrival) :
    registry.follow provider arrivals =
      ((arrivals.filterMap (registry.reported? provider)).find? (·.isTerminal)).getD .pending := by
  rw [follow]
  induction arrivals with
  | nil => rfl
  | cons arrival rest ih =>
    rw [List.foldl_cons, observe_eq, List.filterMap_cons]
    cases registry.reported? provider arrival with
    | none => exact ih
    | some next =>
      rw [Option.map_some, Option.getD_some, PaymentStatus.observe_pending]
      obtain rfl | hterminal := next.eq_pending_or_isTerminal
      · exact ih
      · rw [foldl_observe_of_isTerminal hterminal, List.find?_cons_of_pos hterminal,
          Option.getD_some]

/-- An arrival that makes no difference makes none after further ones. -/
theorem observe_foldl_of_observe (h : registry.observe provider current copy = current)
    (arrivals : List Arrival) :
    registry.observe provider (arrivals.foldl (registry.observe provider) current) copy =
      arrivals.foldl (registry.observe provider) current := by
  obtain rfl | hterminal := current.eq_pending_or_isTerminal
  · exact observe_of_observe_pending h _
  · rw [foldl_observe_of_isTerminal hterminal, h]

/-- Nothing is moved by a copy of what has arrived. -/
theorem observe_foldl_of_isCopyOf (hmem : original ∈ arrivals) (h : copy.IsCopyOf original)
    (current : PaymentStatus) :
    registry.observe provider (arrivals.foldl (registry.observe provider) current) copy =
      arrivals.foldl (registry.observe provider) current := by
  induction arrivals generalizing current with
  | nil => simp at hmem
  | cons arrival rest ih =>
    rw [List.foldl_cons]
    obtain rfl | hrest := List.mem_cons.mp hmem
    · exact observe_foldl_of_observe (observe_observe_of_isCopyOf h current) rest
    · exact ih hrest _

theorem Padded.follow_eq (h : Padded registry provider arrivals more) :
    registry.follow provider more = registry.follow provider arrivals := by
  induction h with
  | none => rfl
  | rejected _ refused ih =>
    rw [← ih]
    simp only [follow, List.foldl_append, List.foldl_cons]
    rw [observe_eq, reported?_of_error refused]
    rfl
  | copy _ mem isCopy ih =>
    rw [← ih]
    simp only [follow, List.foldl_append, List.foldl_cons]
    rw [observe_foldl_of_isCopyOf mem isCopy]

/-- What is not signed as the account demands is as good as never sent. -/
theorem follow_forged {account : Account} {forged : Arrival}
    (haccount : registry.account? provider = some account)
    (h : Signature.verify forged.payload forged.signature account.callbackSecret = false)
    (before after : List Arrival) :
    registry.follow provider (before ++ forged :: after) =
      registry.follow provider (before ++ after) :=
  (Padded.rejected (.none _) (answer_of_not_verified haccount h)).follow_eq

/-- **A payment is settled once.**  Whatever arrives, it ends with the first terminal status that is
reported by an accepted notification, and pending if there is none.  Rejected notifications may
arrive at any place and accepted ones again at any later place: the end is the same. -/
theorem follow_settles_once (registry : Registry) (provider : Provider) :
    (∀ arrivals, registry.follow provider arrivals =
      ((arrivals.filterMap (registry.reported? provider)).find? (·.isTerminal)).getD .pending) ∧
    (∀ arrivals more, Padded registry provider arrivals more →
      registry.follow provider more = registry.follow provider arrivals) :=
  ⟨Registry.follow_eq, fun _ _ padded ↦ padded.follow_eq⟩

/-- A merchant of Tigo Pesa whose notifications are signed. -/
def signedShop : Registry :=
  empty.register (.tigo
    ⟨⟨"key", "secret", "600000", "Shop", some "whsec", .sandbox, none, "/pay"⟩⟩)

/-- A notification of Tigo Pesa about one payment. -/
def notice (status : String) (signature : Option String) (receivedAt : Instant) : Arrival :=
  ⟨receivedAt, ("<COMMAND><TXNID>TX-1</TXNID><STATUS>" ++ status ++ "</STATUS></COMMAND>").toUTF8,
    signature⟩

/-- A success under the signature that the merchant's secret makes for it. -/
def signedSuccess : Instant → Arrival :=
  notice "SUCCESS" "0745236d0c17d2e433754b4889f4594c5358f1a1c9b07fd1d6a76c3aa0ced118"

/-- A success settles a payment, after a forged notification and before its own repetition. -/
theorem follow_settles_once_repeated :
    signedShop.follow .tigoPesa [notice "FAILED" none ⟨0, 0, by decide⟩,
      signedSuccess ⟨1, 0, by decide⟩, signedSuccess ⟨9, 0, by decide⟩] = .succeeded := by
  have hrejected : Padded signedShop .tigoPesa [signedSuccess ⟨1, 0, by decide⟩]
      ([] ++ notice "FAILED" none ⟨0, 0, by decide⟩ :: [signedSuccess ⟨1, 0, by decide⟩]) :=
    .rejected (.none _) (answer_of_not_verified rfl (by decide +kernel))
  have hpadded : Padded signedShop .tigoPesa [signedSuccess ⟨1, 0, by decide⟩]
      ([notice "FAILED" none ⟨0, 0, by decide⟩, signedSuccess ⟨1, 0, by decide⟩] ++
        signedSuccess ⟨9, 0, by decide⟩ :: []) :=
    .copy hrejected (List.mem_cons_of_mem _ List.mem_cons_self) ⟨rfl, rfl⟩
  have hfirst : signedShop.follow .tigoPesa [signedSuccess ⟨1, 0, by decide⟩] = .succeeded := by
    decide +kernel
  exact ((follow_settles_once signedShop .tigoPesa).2 _ _ hpadded).trans hfirst

end Registry

end MobileMoney
