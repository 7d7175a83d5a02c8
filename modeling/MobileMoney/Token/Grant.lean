import MobileMoney.Json.Slot
import MobileMoney.Session

/-!
# Token grants

How a rail answers to an exchange of client secrets: with a token and its lifetime, which may be a
number or a text.
-/

namespace MobileMoney

namespace TokenGrant

/-- The token and the document of its lifetime. -/
def readRecord? (record : Json) : Option (String × Json) := do
  match ← record.slots? ["access_token", "expires_in"] with
  | [token, lifetime] =>
    return (← token.required? Json.text?, ← lifetime.required? (Json.strict? 1))
  | _ => none

def readSeconds? (lifetime : Json) : Option Nat :=
  lifetime.scalar?.bind (Decimal.readBelow? UInt64.size)

def ofReply (reply : Reply) : Except PaymentError TokenGrant := do
  if !reply.isSuccess then
    let status := Decimal.write reply.status
    throw (.authentication reply.provider s!"token exchange failed with HTTP {status}")
  let (token, lifetime) ← reply.record readRecord?
  match readSeconds? lifetime with
  | some seconds => return ⟨token, seconds⟩
  | none => throw (.authentication reply.provider "token response has no usable expires_in")

end TokenGrant

namespace Call

/-- Sends an exchange request; the token lives from the moment its reply has been read. -/
def exchange (provider : Provider) (request : Request) : Call Credential := do
  let reply ← send provider request
  let grant ← ofExcept (TokenGrant.ofReply reply)
  let now ← readClock
  ofCalendar (Credential.issue? grant now)

/-- A bearer token for a client, with a repeated exchange under a policy. -/
def accessToken (policy : RetryPolicy) (key : TokenKey) (request : Request) : Call String :=
  retried policy (bearerToken key (exchange key.provider request))

/-- Sends a request with a bearer token; a reply 401 invalidates the token. -/
def sendAuthorized (key : TokenKey) (request : Request) : Call Reply := do
  let reply ← send key.provider request
  if reply.status = 401 then updateTokens (·.invalidate key)
  return reply

end Call

end MobileMoney
