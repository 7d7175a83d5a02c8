import MobileMoney.Proofs.Callback.Notice
import MobileMoney.Registry

/-!
# Authentication of notifications

The signature of a notification is checked before anything is read.  What is said to a sender whose
signature is refused depends on the rail and on the signature, and on nothing sent under it.
-/

namespace MobileMoney

/-! ## What the rails read -/

theorem Mpesa.readNotice_provider {receivedAt : Instant} {payload : ByteArray} {notice : Notice}
    (h : Mpesa.readNotice receivedAt payload = .ok notice) : notice.event.provider = .mpesa := by
  simp only [Mpesa.readNotice, bind_eq_ok] at h
  obtain ⟨⟨document, text⟩, -, h⟩ := h
  split at h
  · simp only [Mpesa.readPromptAnswer, bind_eq_ok, pure_eq_ok] at h
    obtain ⟨_, -, rfl⟩ := h
    rfl
  · split at h
    · simp only [Mpesa.readPayoutResult, bind_eq_ok, pure_eq_ok] at h
      obtain ⟨_, -, rfl⟩ := h
      rfl
    · exact absurd h throw_ne_ok

theorem Mpesa.parseCallback_provider {receivedAt : Instant} {payload : ByteArray}
    {event : CallbackEvent} (h : Mpesa.parseCallback receivedAt payload = .ok event) :
    event.provider = .mpesa := by
  obtain ⟨notice, hnotice, hcomplete⟩ := bind_eq_ok.mp h
  obtain ⟨amount, -, rfl⟩ := Notice.complete_eq_ok.mp hcomplete
  exact Mpesa.readNotice_provider hnotice

theorem Airtel.parseCallback_provider {receivedAt : Instant} {payload : ByteArray}
    {event : CallbackEvent} (h : Airtel.parseCallback receivedAt payload = .ok event) :
    event.provider = .airtelMoney := by
  simp only [Airtel.parseCallback, bind_eq_ok, pure_eq_ok] at h
  obtain ⟨⟨document, text⟩, -, transaction, -, id, -, rfl⟩ := h
  rfl

theorem Tigo.parseCallback_provider {receivedAt : Instant} {payload : ByteArray}
    {event : CallbackEvent} (h : Tigo.parseCallback receivedAt payload = .ok event) :
    event.provider = .tigoPesa := by
  simp only [Tigo.parseCallback, Tigo.readNotice, bind_eq_ok, pure_eq_ok] at h
  obtain ⟨notice, ⟨text, -, id, -, status, -, rfl⟩, hcomplete⟩ := h
  obtain ⟨amount, -, rfl⟩ := Notice.complete_eq_ok.mp hcomplete
  rfl

/-- Every rail reads events of its own. -/
theorem Provider.parseCallback_provider {provider : Provider} {receivedAt : Instant}
    {payload : ByteArray} {event : CallbackEvent}
    (h : provider.parseCallback receivedAt payload = .ok event) : event.provider = provider := by
  cases provider with
  | mpesa => exact Mpesa.parseCallback_provider h
  | airtelMoney => exact Airtel.parseCallback_provider h
  | tigoPesa => exact Tigo.parseCallback_provider h

/-! ## What the signature decides -/

/-- What is said about a signature that is refused. -/
def Signature.complaint (signature : Option String) : String :=
  if (present? signature).isNone then "missing callback signature"
  else "invalid callback signature"

/-- The two checks of a signature agree, and a refusal does not look at the payload. -/
theorem Signature.require_eq (provider : Provider) (payload : ByteArray)
    (signature secret : Option String) :
    require provider payload signature secret =
      if verify payload signature secret then .ok ()
      else .error (.callback provider (complaint signature)) := by
  cases hsecret : present? secret with
  | none => simp [require, verify, hsecret]
  | some _ =>
    cases hsignature : present? signature with
    | none => simp [require, verify, complaint, hsecret, hsignature]
    | some _ => simp [require, complaint, hsecret, hsignature]

namespace Registry

variable {registry : Registry} {provider : Provider}

theorem authenticate_of_absent (h : registry.account? provider = none) (payload : ByteArray)
    (signature : Option String) :
    registry.authenticate provider payload signature =
      .error (.invalid provider s!"provider {provider.code} is not enabled" "provider") := by
  simp only [authenticate, get, h, bind, Except.bind]

theorem authenticate_of_registered {account : Account}
    (h : registry.account? provider = some account) (payload : ByteArray)
    (signature : Option String) :
    registry.authenticate provider payload signature =
      if Signature.verify payload signature account.callbackSecret then .ok account
      else .error (.callback provider (Signature.complaint signature)) := by
  obtain rfl := registry.keyed provider account h
  simp only [authenticate, get, h, Account.verifyCallback, Signature.require_eq, ok_bind]
  split <;> rfl

theorem processCallback_of_absent (h : registry.account? provider = none) (receivedAt : Instant)
    (payload : ByteArray) (signature : Option String) :
    registry.processCallback provider receivedAt payload signature =
      .error (.invalid provider s!"provider {provider.code} is not enabled" "provider") := by
  rw [processCallback, authenticate_of_absent h]
  rfl

/-- A registered rail is asked to read what its signature check lets through. -/
theorem processCallback_of_registered {account : Account}
    (h : registry.account? provider = some account) (receivedAt : Instant) (payload : ByteArray)
    (signature : Option String) :
    registry.processCallback provider receivedAt payload signature =
      if Signature.verify payload signature account.callbackSecret then
        provider.parseCallback receivedAt payload
      else .error (.callback provider (Signature.complaint signature)) := by
  rw [processCallback, authenticate_of_registered h]
  obtain rfl := registry.keyed provider account h
  split <;> rfl

/-- **Authentication comes before reading.**  An event comes out exactly when the rail is
registered, its signature check accepts the payload, and its reader makes the event of it.  A
refusal is the same for all payloads under one signature. -/
theorem processCallback_authenticates (registry : Registry) (provider : Provider) :
    (∀ receivedAt payload signature event,
      registry.processCallback provider receivedAt payload signature = .ok event ↔
        ∃ account, registry.account? provider = some account ∧
          Signature.require provider payload signature account.callbackSecret = .ok () ∧
          provider.parseCallback receivedAt payload = .ok event ∧ event.provider = provider) ∧
    (∀ account signature, registry.account? provider = some account →
      ∀ receivedAt payload, Signature.verify payload signature account.callbackSecret = false →
        registry.processCallback provider receivedAt payload signature =
          .error (.callback provider (Signature.complaint signature))) ∧
    (registry.account? provider = none → ∃ message field, ∀ receivedAt payload signature,
      registry.processCallback provider receivedAt payload signature =
        .error (.validation provider message field)) := by
  refine ⟨fun receivedAt payload signature event ↦ ?_,
    fun account signature haccount receivedAt payload hrefused ↦ ?_,
    fun habsent ↦ ⟨_, _, processCallback_of_absent habsent⟩⟩
  · cases haccount : registry.account? provider with
    | none => simp [processCallback_of_absent haccount]
    | some account =>
      rw [processCallback_of_registered haccount]
      simp only [Signature.require_eq, Option.some.injEq, exists_eq_left']
      by_cases hverified : Signature.verify payload signature account.callbackSecret
      · simp only [hverified, if_true, true_and]
        exact ⟨fun h ↦ ⟨h, Provider.parseCallback_provider h⟩, fun h ↦ h.1⟩
      · simp [hverified]
  · rw [processCallback_of_registered haccount, hrefused]
    rfl

end Registry

end MobileMoney
