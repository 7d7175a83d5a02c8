import MobileMoney.Account
import MobileMoney.Proofs.Callback.Signing
import MobileMoney.Proofs.Session.Secrecy

/-!
# Accounts without their secrets

Secrets go into the headers and the bodies of requests, and nowhere else; and what they become in a
header never keeps a request from being sent.  So the calls of two accounts that differ only in the
values of their secrets look alike.
-/

namespace MobileMoney

/-! ## Secrets in headers -/

namespace Digest

theorem Base64.isHeaderChar_digit (n : Nat) : Request.isHeaderChar (digit n) = true := by
  have hdigits : ∀ n < 62, Request.isHeaderChar (digit n) = true := by decide
  by_cases hn : n < 62
  · exact hdigits n hn
  · unfold digit
    rw [if_neg (by omega), if_neg (by omega), if_neg hn]
    split <;> decide

theorem Base64.isHeaderChar_encodeBytes (bytes : List UInt8) :
    ∀ c ∈ encodeBytes bytes, Request.isHeaderChar c = true := by
  have hfill : Request.isHeaderChar '=' = true := by decide
  fun_induction encodeBytes bytes with
  | case1 => exact List.forall_mem_nil _
  | case2 a n => simp [isHeaderChar_digit, hfill]
  | case3 a b n => simp [isHeaderChar_digit, hfill]
  | case4 a b c rest n ih =>
    simp only [List.forall_mem_cons, isHeaderChar_digit, true_and]
    exact ih

theorem Hex.isHeaderChar_numerals : ∀ c ∈ numerals, Request.isHeaderChar c = true :=
  List.all_eq_true.mp (by decide)

end Digest

/-- A credential that is written in Base64 never keeps a request from being sent. -/
theorem Request.all_isHeaderChar_basic (credentials : String) :
    ("Basic " ++ Digest.Base64.encode credentials).toList.all isHeaderChar = true := by
  rw [List.all_eq_true, String.toList_append, List.forall_mem_append]
  refine ⟨List.all_eq_true.mp (by decide), fun c hc ↦ ?_⟩
  rw [Digest.Base64.encode, String.toList_ofList] at hc
  exact Digest.Base64.isHeaderChar_encodeBytes _ c hc

/-- Nor does a signature. -/
theorem Request.all_isHeaderChar_sign (payload : ByteArray) (secret : String) :
    (Signature.sign payload secret).toList.all isHeaderChar = true := by
  rw [List.all_eq_true, Signature.sign, String.toList_append, List.forall_mem_append]
  exact ⟨List.all_eq_true.mp (by decide), fun c hc ↦
    Digest.Hex.isHeaderChar_numerals c (Digest.hmacHex_numerals payload secret c hc)⟩

/-! ## Requests without their secrets -/

/-- A secret of which only the presence is left. -/
def redactedSecret (secret : Option String) : Option String :=
  secret.map fun _ ↦ ""

def DisbursementRequest.redacted (request : DisbursementRequest) : DisbursementRequest :=
  { request with securityCredential := redactedSecret request.securityCredential }

/-- What does not look at secrets is the same for both. -/
theorem congr_of_redacted {α β : Type} {redact : α → α} {a b : α} (h : redact a = redact b)
    (f : α → β) (hf : ∀ x, f (redact x) = f x) : f a = f b := by
  rw [← hf a, h, hf]

theorem isSome_redactedSecret (secret : Option String) :
    (redactedSecret secret).isSome = secret.isSome :=
  Option.isSome_map

namespace DisbursementRequest

variable {request other : DisbursementRequest} (h : request.redacted = other.redacted)

include h

/-- The credential of a request, or else the one of the account, is there on both sides or on
neither. -/
theorem isSome_credential_or_eq {kept kept' : Option String} (hkept : kept.isSome = kept'.isSome) :
    (request.securityCredential.or kept).isSome = (other.securityCredential.or kept').isSome := by
  have hgiven : request.securityCredential.isSome = other.securityCredential.isSome :=
    congr_of_redacted h (·.securityCredential.isSome) fun _ ↦ isSome_redactedSecret _
  rw [Option.isSome_or, Option.isSome_or, hgiven, hkept]

theorem prepareDisbursement_eq (rules : RailRules) (remarksLength : Nat) :
    rules.prepareDisbursement remarksLength request =
      rules.prepareDisbursement remarksLength other :=
  congr_of_redacted h (rules.prepareDisbursement remarksLength) fun _ ↦ rfl

end DisbursementRequest

open Call

/-! ## M-Pesa -/

namespace Mpesa

def Config.redacted (config : Config) : Config :=
  { config with
    consumerSecret := ""
    passkey := ""
    securityCredential := redactedSecret config.securityCredential }

namespace Account

def redacted (account : Account) : Account :=
  { account with config := account.config.redacted }

variable {account other : Account} {world : World}

section

variable (h : account.redacted = other.redacted)

include h

theorem exchangeRequest_looksLike : account.exchangeRequest.LooksLike other.exchangeRequest := by
  have htarget : account.exchangeRequest.target = other.exchangeRequest.target :=
    congr_of_redacted h (·.exchangeRequest.target) fun _ ↦ rfl
  have hurl : account.exchangeRequest.url = other.exchangeRequest.url := congrArg Prod.snd htarget
  refine ⟨htarget, ?_⟩
  rw [Request.isSendable, Request.isSendable, hurl]
  simp only [exchangeRequest, List.all_cons, List.all_nil, Request.all_isHeaderChar_basic]

theorem post_looksLike (hworld : world.IsBlind) (path : String) (body body' : Json) :
    LooksLike world (account.post path body) (other.post path body') := by
  have hkey : account.tokenKey = other.tokenKey := congr_of_redacted h tokenKey fun _ ↦ rfl
  have hpolicy : account.policy = other.policy := congr_of_redacted h policy fun _ ↦ rfl
  have hurl : account.config.baseUrl = other.config.baseUrl :=
    congr_of_redacted h (·.config.baseUrl) fun _ ↦ rfl
  unfold post accessToken
  rw [hkey, hpolicy]
  refine (looksLike_accessToken hworld _ (exchangeRequest_looksLike h) _).bind fun token ↦ ?_
  apply looksLike_sendAuthorized hworld
  apply Request.looksLike_of_headers
  · simp only [Request.target, postRequest, hurl]
  · rfl

theorem collect_looksLike (hworld : world.IsBlind) (request : CollectionRequest) :
    LooksLike world (account.collect request) (other.collect request) := by
  refine (looksLike_ofExcept _).bind fun prepared ↦ ?_
  refine looksLike_readClock.bind fun now ↦ ?_
  refine (post_looksLike h hworld _ _ _).bind fun reply ↦ ?_
  exact looksLike_ofExcept _

theorem payoutTerms_map {request request' : DisbursementRequest}
    (hrequest : request.redacted = request'.redacted) :
    (account.payoutTerms request).map (fun _ ↦ ()) =
      (other.payoutTerms request').map fun _ ↦ () := by
  have hgiven : request.initiatorName = request'.initiatorName :=
    congr_of_redacted hrequest (·.initiatorName) fun _ ↦ rfl
  have hinitiator : account.config.initiatorName = other.config.initiatorName :=
    congr_of_redacted h (·.config.initiatorName) fun _ ↦ rfl
  have hurl : account.config.resultUrl = other.config.resultUrl :=
    congr_of_redacted h (·.config.resultUrl) fun _ ↦ rfl
  have hconfigured : account.config.securityCredential.isSome =
      other.config.securityCredential.isSome :=
    congr_of_redacted h (·.config.securityCredential.isSome) fun _ ↦ isSome_redactedSecret _
  have hsecret := DisbursementRequest.isSome_credential_or_eq hrequest hconfigured
  unfold payoutTerms
  simp only [hgiven, hinitiator, hurl]
  generalize request.securityCredential.or account.config.securityCredential = secret at hsecret
  generalize request'.securityCredential.or other.config.securityCredential = secret' at hsecret
  cases request'.initiatorName.or other.config.initiatorName with
  | none => rfl
  | some initiator =>
    cases secret with
    | none =>
      cases secret' with
      | none => rfl
      | some _ => contradiction
    | some _ =>
      cases secret' with
      | none => contradiction
      | some _ => cases other.config.resultUrl <;> rfl

theorem disburse_looksLike (hworld : world.IsBlind) {request request' : DisbursementRequest}
    (hrequest : request.redacted = request'.redacted) :
    LooksLike world (account.disburse request) (other.disburse request') := by
  unfold disburse
  rw [DisbursementRequest.prepareDisbursement_eq hrequest]
  refine (looksLike_ofExcept _).bind fun prepared ↦ ?_
  apply looksLike_ofExcept_bind (payoutTerms_map h hrequest)
  intro terms terms'
  refine looksLike_drawIdentifier.bind fun identifier ↦ ?_
  refine (post_looksLike h hworld _ _ _).bind fun reply ↦ ?_
  exact looksLike_ofExcept _

theorem query_looksLike (hworld : world.IsBlind) (id : String) :
    LooksLike world (account.query id) (other.query id) := by
  have hpolicy : account.policy = other.policy := congr_of_redacted h policy fun _ ↦ rfl
  unfold query
  split
  · exact looksLike_throw _
  · rw [hpolicy]
    apply LooksLike.retried _ other.policy
    refine looksLike_readClock.bind fun now ↦ ?_
    refine (post_looksLike h hworld _ _ _).bind fun reply ↦ ?_
    exact looksLike_ofExcept _

end

end Account

end Mpesa

/-! ## Airtel Money -/

namespace Airtel

def Config.redacted (config : Config) : Config :=
  { config with clientSecret := "", disbursementPin := redactedSecret config.disbursementPin }

namespace Account

def redacted (account : Account) : Account :=
  { account with config := account.config.redacted }

variable {account other : Account} {world : World}

section

variable (h : account.redacted = other.redacted)

include h

theorem exchangeRequest_looksLike : account.exchangeRequest.LooksLike other.exchangeRequest := by
  apply Request.looksLike_of_headers
  · exact congr_of_redacted h (·.exchangeRequest.target) fun _ ↦ rfl
  · rfl

theorem send_looksLike (hworld : world.IsBlind) {request request' : String → Request}
    (hrequest : ∀ token, (request token).LooksLike (request' token)) :
    LooksLike world (account.send request) (other.send request') := by
  have hkey : account.tokenKey = other.tokenKey := congr_of_redacted h tokenKey fun _ ↦ rfl
  have hpolicy : account.policy = other.policy := congr_of_redacted h policy fun _ ↦ rfl
  unfold send accessToken
  rw [hkey, hpolicy]
  refine (looksLike_accessToken hworld _ (exchangeRequest_looksLike h) _).bind fun token ↦ ?_
  refine (looksLike_sendAuthorized hworld _ (hrequest token)).bind fun reply ↦ ?_
  exact looksLike_ofExcept _

theorem postRequest_looksLike (path : String) (body body' : Json) (token : String) :
    (account.postRequest path body token).LooksLike (other.postRequest path body' token) := by
  apply Request.looksLike_of_headers
  · exact congr_of_redacted h (·.postRequest path body token |>.target) fun _ ↦ rfl
  · exact congr_of_redacted h (·.postRequest path body token |>.headers) fun _ ↦ rfl

theorem getRequest_looksLike (path token : String) :
    (account.getRequest path token).LooksLike (other.getRequest path token) := by
  apply Request.looksLike_of_headers
  · exact congr_of_redacted h (·.getRequest path token |>.target) fun _ ↦ rfl
  · exact congr_of_redacted h (·.getRequest path token |>.headers) fun _ ↦ rfl

theorem collect_looksLike (hworld : world.IsBlind) (request : CollectionRequest) :
    LooksLike world (account.collect request) (other.collect request) := by
  have hmarket : account.market = other.market := congr_of_redacted h market fun _ ↦ rfl
  unfold collect
  rw [hmarket]
  refine (looksLike_ofExcept _).bind fun prepared ↦ ?_
  refine (send_looksLike h hworld (postRequest_looksLike h _ _ _)).bind fun reply ↦ ?_
  exact looksLike_ofExcept _

theorem pin_map {request request' : DisbursementRequest}
    (hrequest : request.redacted = request'.redacted) :
    (account.pin request).map (fun _ ↦ ()) = (other.pin request').map fun _ ↦ () := by
  have hconfigured : account.config.disbursementPin.isSome =
      other.config.disbursementPin.isSome :=
    congr_of_redacted h (·.config.disbursementPin.isSome) fun _ ↦ isSome_redactedSecret _
  have hpin := DisbursementRequest.isSome_credential_or_eq hrequest hconfigured
  unfold pin
  generalize request.securityCredential.or account.config.disbursementPin = secret at hpin
  generalize request'.securityCredential.or other.config.disbursementPin = secret' at hpin
  cases secret with
  | none =>
    cases secret' with
    | none => rfl
    | some _ => contradiction
  | some _ =>
    cases secret' with
    | none => contradiction
    | some _ => rfl

theorem disburse_looksLike (hworld : world.IsBlind) {request request' : DisbursementRequest}
    (hrequest : request.redacted = request'.redacted) :
    LooksLike world (account.disburse request) (other.disburse request') := by
  have hmarket : account.market = other.market := congr_of_redacted h market fun _ ↦ rfl
  unfold disburse
  rw [hmarket, DisbursementRequest.prepareDisbursement_eq hrequest]
  refine (looksLike_ofExcept _).bind fun prepared ↦ ?_
  apply looksLike_ofExcept_bind (pin_map h hrequest)
  intro secret secret'
  refine (send_looksLike h hworld (postRequest_looksLike h _ _ _)).bind fun reply ↦ ?_
  exact looksLike_ofExcept _

theorem query_looksLike (hworld : world.IsBlind) (id : String) :
    LooksLike world (account.query id) (other.query id) := by
  have hpolicy : account.policy = other.policy := congr_of_redacted h policy fun _ ↦ rfl
  unfold query
  split
  · exact looksLike_throw _
  · rw [hpolicy]
    apply LooksLike.retried _ other.policy
    refine (send_looksLike h hworld (getRequest_looksLike h _)).bind fun reply ↦ ?_
    exact looksLike_ofExcept _

end

end Account

end Airtel

/-! ## Tigo Pesa -/

namespace Tigo

def Config.redacted (config : Config) : Config :=
  { config with apiSecret := "" }

namespace Account

def redacted (account : Account) : Account :=
  { account with config := account.config.redacted }

theorem collectionRequest_looksLike {account other : Account}
    (h : account.redacted = other.redacted) (document document' : String) :
    (account.collectionRequest document).LooksLike (other.collectionRequest document') := by
  have hurl : account.endpoint = other.endpoint := congr_of_redacted h endpoint fun _ ↦ rfl
  have hkey : account.config.apiKey = other.config.apiKey :=
    congr_of_redacted h (·.config.apiKey) fun _ ↦ rfl
  refine ⟨congrArg (fun url ↦ (Method.post, url)) hurl, ?_⟩
  simp only [Request.isSendable, collectionRequest, hurl, hkey, List.all_cons, List.all_nil,
    Request.all_isHeaderChar_sign]

theorem collect_looksLike {account other : Account} (h : account.redacted = other.redacted)
    {world : World} (hworld : world.IsBlind) (request : CollectionRequest) :
    LooksLike world (account.collect request) (other.collect request) := by
  refine (looksLike_ofExcept _).bind fun prepared ↦ ?_
  refine looksLike_drawIdentifier.bind fun identifier ↦ ?_
  have hrequest := collectionRequest_looksLike h
    (account.collectionDocument identifier prepared).render
    (other.collectionDocument identifier prepared).render
  exact (looksLike_send hworld .tigoPesa hrequest).bind fun reply ↦ looksLike_ofExcept _

end Account

end Tigo

end MobileMoney
