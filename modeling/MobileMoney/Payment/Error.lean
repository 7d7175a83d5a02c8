import MobileMoney.Provider

/-!
# Payment errors

Why an operation on a rail failed.  The kind of error decides whether a repetition can help and
which HTTP status reports it.
-/

namespace MobileMoney

inductive PaymentError where
  | validation (provider : Provider) (message : String) (field : Option String)
  | authentication (provider : Provider) (message : String)
  | callback (provider : Provider) (message : String)
  | network (provider : Provider) (message : String)
  | rateLimit (provider : Provider) (message : String)
  | rejected (provider : Provider) (message : String) (code : Option String) (retryable : Bool)
  | unsupported (provider : Provider) (operation : String)
deriving DecidableEq

namespace PaymentError

def provider : PaymentError → Provider
  | validation provider .. => provider
  | authentication provider _ => provider
  | callback provider _ => provider
  | network provider _ => provider
  | rateLimit provider _ => provider
  | rejected provider .. => provider
  | unsupported provider _ => provider

/-- The message, or the operation that is not supported. -/
def reason : PaymentError → String
  | validation _ message _ => message
  | authentication _ message => message
  | callback _ message => message
  | network _ message => message
  | rateLimit _ message => message
  | rejected _ message .. => message
  | unsupported _ operation => operation

def code : PaymentError → String
  | validation .. => "validation_error"
  | authentication .. => "provider_auth_error"
  | callback .. => "callback_error"
  | network .. => "network_error"
  | rateLimit .. => "rate_limit_error"
  | rejected .. => "provider_error"
  | unsupported .. => "unsupported"

def title : PaymentError → String
  | validation .. => "Validation error"
  | authentication .. => "Provider authentication failed"
  | callback .. => "Callback rejected"
  | network .. => "Network error"
  | rateLimit .. => "Rate limit exceeded"
  | rejected .. => "Provider error"
  | unsupported .. => "Unsupported operation"

def display (error : PaymentError) : String :=
  let label := if error matches unsupported .. then "operation" else "message"
  s!"{error.title}: provider={error.provider.code}, {label}={error.reason}"

def isRetryable : PaymentError → Bool
  | authentication .. => true
  | network .. => true
  | rateLimit .. => true
  | rejected _ _ _ retryable => retryable
  | _ => false

def httpStatus : PaymentError → Nat
  | validation .. => 400
  | authentication .. => 502
  | callback .. => 401
  | network .. => 503
  | rateLimit .. => 429
  | rejected .. => 502
  | unsupported .. => 501

/-- The same error for another reason; an unsupported operation stays as it is. -/
def mapReason (f : String → String) : PaymentError → PaymentError
  | validation provider message field => validation provider (f message) field
  | authentication provider message => authentication provider (f message)
  | callback provider message => callback provider (f message)
  | network provider message => network provider (f message)
  | rateLimit provider message => rateLimit provider (f message)
  | rejected provider message code retryable => rejected provider (f message) code retryable
  | unsupported provider operation => unsupported provider operation

/-- A validation error of a named field. -/
def invalid (provider : Provider) (message field : String) : PaymentError :=
  validation provider message (some field)

end PaymentError

end MobileMoney
