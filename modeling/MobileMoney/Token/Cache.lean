import MobileMoney.Payment.Error
import MobileMoney.Text.Outline
import MobileMoney.Time.Instant

/-!
# Bearer tokens and their cache

A credential is usable as long as it does not expire within the safety margin.  The cache keeps one
credential for each provider and client.  A request for a token has three parts: look for a usable
token, exchange the client's secrets for a new credential, store it.
-/

namespace MobileMoney

/-- What an exchange gives: a token and its lifetime in seconds. -/
structure TokenGrant where
  token : String
  seconds : Nat
deriving DecidableEq

structure Credential where
  token : String
  expiresAt : Instant
deriving DecidableEq

namespace Credential

/-- A credential issued now; nothing when it would outlast the calendar. -/
def issue? (grant : TokenGrant) (now : Instant) : Option Credential :=
  (now.add? (.ofSeconds grant.seconds)).map fun expiresAt ↦ ⟨grant.token, expiresAt⟩

/-- Whether the credential outlasts the margin; nothing when the margin leaves the calendar. -/
def isUsable? (credential : Credential) (now : Instant) (margin : Duration) : Option Bool :=
  (credential.expiresAt.sub? margin).map now.isBefore

def outline (credential : Credential) : Outline where
  title := "ProviderCredential"
  fields := [
    ("access_token", Text.quote Outline.stars),
    ("expires_at", String.ofList credential.expiresAt.write)]
  isOpen := false

end Credential

structure TokenKey where
  provider : Provider
  client : String
deriving DecidableEq

structure TokenCache where
  margin : Duration
  entries : List (TokenKey × Credential)

namespace TokenCache

def standardMargin : Duration :=
  .ofSeconds 60

def empty (margin : Duration) : TokenCache :=
  ⟨margin, []⟩

def find? (cache : TokenCache) (key : TokenKey) : Option Credential :=
  cache.entries.lookup key

def size (cache : TokenCache) : Nat :=
  cache.entries.length

def invalidate (cache : TokenCache) (key : TokenKey) : TokenCache :=
  { cache with entries := cache.entries.filter (·.1 ≠ key) }

def store (cache : TokenCache) (key : TokenKey) (credential : Credential) : TokenCache :=
  { cache with entries := (key, credential) :: cache.entries.filter (·.1 ≠ key) }

def clear (cache : TokenCache) : TokenCache :=
  { cache with entries := [] }

/-- The token kept for a key, if it is usable now. -/
def usableToken? (cache : TokenCache) (key : TokenKey) (now : Instant) : Option (Option String) :=
  match cache.find? key with
  | none => some none
  | some credential =>
    (credential.isUsable? now cache.margin).map fun usable ↦
      if usable then some credential.token else none

/-- What a request for a token gives, and whether it took an exchange. -/
structure Answer where
  result : Except PaymentError String
  exchanged : Bool

/-- A request for a token at one time.  An exchange would have the given outcome, or none if its
credential would outlast the calendar. -/
def get? (cache : TokenCache) (key : TokenKey) (now : Instant)
    (exchange : Option (Except PaymentError Credential)) : Option (Answer × TokenCache) := do
  match ← cache.usableToken? key now with
  | some token => return (⟨.ok token, false⟩, cache)
  | none =>
    match ← exchange with
    | .ok credential => return (⟨.ok credential.token, true⟩, cache.store key credential)
    | .error error => return (⟨.error error, true⟩, cache)

end TokenCache

end MobileMoney
