import MobileMoney.Http.Reply
import MobileMoney.Http.Request
import MobileMoney.Retry
import MobileMoney.Token.Cache

/-!
# Sessions

A `Call` talks to a provider: it sends requests, reads the clock, draws identifiers and uses the
token cache.  What the outside does is a `World`, fixed beforehand for every possible history of
requests; what the calls have done so far is a `Session`.  A call ends with a value, fails with a
payment error, or aborts because a time leaves the calendar.
-/

namespace MobileMoney

/-- What becomes of a request: no connection, an answer, or one of two broken connections. -/
inductive Delivery where
  | unreachable
  | answered (status : Nat) (body : String)
  | dropped
  | cutShort
deriving DecidableEq

structure Exchange where
  request : Request
  delivery : Delivery

/-- The outside: what becomes of the last of a list of requests, the readings of the clock, and the
generated identifiers of 32 hexadecimal digits. -/
structure World where
  deliver : List Request → Delivery
  clock : Nat → Instant
  identifier : Nat → String

structure Session where
  log : List Exchange
  readings : Nat
  drawn : Nat
  tokens : TokenCache

namespace Session

def start (margin : Duration) : Session :=
  ⟨[], 0, 0, .empty margin⟩

def requests (session : Session) : List Request :=
  session.log.map Exchange.request

end Session

inductive Outcome (α : Type) where
  | done (value : α)
  | failed (error : PaymentError)
  | aborted

def Call (α : Type) : Type :=
  World → Session → Outcome α × Session

namespace Call

instance : Monad Call where
  pure value := fun _ session ↦ (.done value, session)
  bind call next := fun world session ↦
    match call world session with
    | (.done value, session) => next value world session
    | (.failed error, session) => (.failed error, session)
    | (.aborted, session) => (.aborted, session)

instance : MonadExceptOf PaymentError Call where
  throw error := fun _ session ↦ (.failed error, session)
  tryCatch call handle := fun world session ↦
    match call world session with
    | (.failed error, session) => handle error world session
    | result => result

def ofExcept : Except PaymentError α → Call α
  | .ok value => pure value
  | .error error => throw error

/-- The value, unless a time has left the calendar. -/
def ofCalendar : Option α → Call α
  | some value => pure value
  | none => fun _ session ↦ (.aborted, session)

def readClock : Call Instant := fun world session ↦
  (.done (world.clock session.readings), { session with readings := session.readings + 1 })

def drawIdentifier : Call String := fun world session ↦
  (.done (world.identifier session.drawn), { session with drawn := session.drawn + 1 })

def tokens : Call TokenCache := fun _ session ↦
  (.done session.tokens, session)

def updateTokens (f : TokenCache → TokenCache) : Call Unit := fun _ session ↦
  (.done (), { session with tokens := f session.tokens })

def requestFailed (provider : Provider) (cause : String) : PaymentError :=
  .network provider s!"provider request failed: {cause}"

def readFailed (provider : Provider) (cause : String) : PaymentError :=
  .network provider s!"failed to read provider response: {cause}"

def reply (provider : Provider) : Delivery → Outcome Reply
  | .unreachable => .failed (requestFailed provider "no connection")
  | .answered status body => .done ⟨provider, status, body⟩
  | .dropped => .failed (requestFailed provider "connection closed")
  | .cutShort => .failed (readFailed provider "body cut short")

def send (provider : Provider) (request : Request) : Call Reply := fun world session ↦
  if request.isSendable then
    let delivery := world.deliver (session.requests ++ [request])
    (reply provider delivery, { session with log := session.log ++ [⟨request, delivery⟩] })
  else (.failed (requestFailed provider "request cannot be written"), session)

/-- Repetition under a policy; the pauses take place outside the session. -/
def retried (policy : RetryPolicy) (call : Call α) : Call α :=
  withRetry policy (fun _ ↦ pure ()) call

/-- The token kept for a key, if it is usable; the clock is read only when there is one. -/
def usableToken? (key : TokenKey) : Call (Option String) := do
  let cache ← tokens
  if (cache.find? key).isNone then return none
  ofCalendar (cache.usableToken? key (← readClock))

/-- A usable token, by an exchange when none is kept. -/
def bearerToken (key : TokenKey) (exchange : Call Credential) : Call String := do
  match ← usableToken? key with
  | some token => return token
  | none =>
    let credential ← exchange
    updateTokens (·.store key credential)
    return credential.token

end Call

end MobileMoney
