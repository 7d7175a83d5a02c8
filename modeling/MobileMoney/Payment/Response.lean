import MobileMoney.Payment.Status
import MobileMoney.Provider

/-!
# Payment responses

What a rail answers to a request for money and to a question about its status.
-/

namespace MobileMoney

/-- `providerReference` is the identifier that the callback of the payment will carry, and
`reference` is the one that was sent. -/
structure PaymentResponse where
  provider : Provider
  status : PaymentStatus
  providerReference : String
  secondaryReference : Option String
  reference : String
  customerMessage : Option String
deriving DecidableEq

structure StatusResponse where
  provider : Provider
  providerReference : String
  status : PaymentStatus
  resultCode : Option String
  description : Option String
deriving DecidableEq

end MobileMoney
