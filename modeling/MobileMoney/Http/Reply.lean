import MobileMoney.Json.Reader
import MobileMoney.Markup.Element
import MobileMoney.Payment.Error

/-!
# Replies

What a provider answers to a request, and the payment error that a reply outside 200 to 299 stands
for.  Providers put their own code and description into JSON under several names, or into markup.
-/

namespace MobileMoney

structure ErrorDetails where
  code : Option String
  description : Option String
deriving DecidableEq

namespace ErrorDetails

def firstScalar? (document : Json) (paths : List (List String)) : Option String :=
  paths.findSome? document.scalarAt?

def codePaths : List (List String) :=
  [["errorCode"], ["error"], ["status", "response_code"]]

def descriptionPaths : List (List String) :=
  [["errorMessage"], ["error_description"], ["status", "message"], ["message"]]

def ofBody (body : String) : ErrorDetails :=
  match Json.document? body with
  | some document => ⟨firstScalar? document codePaths, firstScalar? document descriptionPaths⟩
  | none => ⟨Markup.extract? body "ERRORCODE", Markup.extract? body "MESSAGE"⟩

end ErrorDetails

structure Reply where
  provider : Provider
  status : Nat
  body : String
deriving DecidableEq

namespace Reply

def isSuccess (reply : Reply) : Bool :=
  200 ≤ reply.status && reply.status < 300

def unreadable (reply : Reply) : PaymentError :=
  .rejected reply.provider "invalid provider JSON response: unexpected document" none false

/-- The body as a document. -/
def document (reply : Reply) : Except PaymentError Json :=
  match Json.document? reply.body with
  | some document => .ok document
  | none => .error reply.unreadable

/-- The body as a record. -/
def record (reply : Reply) (read : Json → Option α) : Except PaymentError α :=
  match (Json.parse? reply.body.toList).bind read with
  | some value => .ok value
  | none => .error reply.unreadable

/-- The error that a reply stands for when it is not a success. -/
def error (reply : Reply) : PaymentError :=
  let details := ErrorDetails.ofBody reply.body
  let status := Decimal.write reply.status
  let message :=
    match details.description with
    | some description => s!"HTTP {status}: {description}"
    | none => s!"HTTP {status}"
  if reply.status = 401 ∨ reply.status = 403 then .authentication reply.provider message
  else if reply.status = 429 then .rateLimit reply.provider message
  else .rejected reply.provider message (some (details.code.getD status)) (500 ≤ reply.status)

def checked (reply : Reply) : Except PaymentError Reply :=
  if reply.isSuccess then .ok reply else .error reply.error

end Reply

end MobileMoney
