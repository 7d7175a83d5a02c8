import MobileMoney.Http.Target
import MobileMoney.Json.Writer

/-!
# Requests

A request can be sent when its URL has a host and no header value holds a control character.
-/

namespace MobileMoney

inductive Method where
  | get
  | post
deriving DecidableEq

inductive Body where
  | none
  | json (document : Json)
  | text (content : String)

namespace Body

def write : Body → String
  | none => ""
  | json document => document.compact
  | text content => content

end Body

structure Request where
  method : Method
  url : String
  headers : List (String × String)
  body : Body

namespace Request

/-- A tab is the one control character that a header value may hold. -/
def isHeaderChar (c : Char) : Bool :=
  c = '\t' || (0x20 ≤ c.toNat && c.toNat ≠ 0x7F)

def isSendable (request : Request) : Bool :=
  (Http.Target.ofUrl? request.url).isSome &&
    request.headers.all fun (_, value) ↦ value.toList.all isHeaderChar

def header? (request : Request) (name : String) : Option String :=
  request.headers.lookup name

end Request

/-- The header of a request that carries a bearer token. -/
def bearer (token : String) : String × String :=
  ("authorization", s!"Bearer {token}")

def jsonContent : String × String :=
  ("content-type", "application/json")

end MobileMoney
