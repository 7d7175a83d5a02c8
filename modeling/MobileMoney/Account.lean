import MobileMoney.Airtel.Account
import MobileMoney.Mpesa.Account
import MobileMoney.Tigo.Account

/-!
# Accounts

An account with one of the rails, and what can be done with any of them.  Tigo Pesa takes neither
disbursements nor questions about a payment.
-/

namespace MobileMoney

inductive Account where
  | mpesa (account : Mpesa.Account)
  | airtel (account : Airtel.Account)
  | tigo (account : Tigo.Account)

namespace Account

def provider : Account → Provider
  | mpesa _ => .mpesa
  | airtel _ => .airtelMoney
  | tigo _ => .tigoPesa

def rules : Account → RailRules
  | mpesa _ => Mpesa.rules
  | airtel account => account.market.rules
  | tigo _ => Tigo.rules

def currency (account : Account) : String :=
  account.rules.currency

def supportsDisbursement : Account → Bool
  | tigo _ => false
  | _ => true

def supportsQuery : Account → Bool
  | tigo _ => false
  | _ => true

def callbackSecret : Account → Option String
  | mpesa account => account.config.callbackSecret
  | airtel account => account.config.callbackSecret
  | tigo account => account.config.callbackSecret

def prepareCollection (account : Account) (request : CollectionRequest) :
    Except PaymentError PreparedCollection :=
  account.rules.prepareCollection request

def collect : Account → CollectionRequest → Call PaymentResponse
  | mpesa account => account.collect
  | airtel account => account.collect
  | tigo account => account.collect

def disburse : Account → DisbursementRequest → Call PaymentResponse
  | mpesa account => account.disburse
  | airtel account => account.disburse
  | tigo _ => fun _ ↦ throw (.unsupported .tigoPesa "disbursement")

def query : Account → String → Call StatusResponse
  | mpesa account => account.query
  | airtel account => account.query
  | tigo _ => fun _ ↦ throw (.unsupported .tigoPesa "status query")

/-- Whether a notification may be read. -/
def verifyCallback (account : Account) (payload : ByteArray) (signature : Option String) :
    Except PaymentError Unit :=
  Signature.require account.provider payload signature account.callbackSecret

end Account

namespace Provider

/-- Reads a notification of a rail. -/
def parseCallback (provider : Provider) (receivedAt : Instant) (payload : ByteArray) :
    Except PaymentError CallbackEvent :=
  match provider with
  | mpesa => Mpesa.parseCallback receivedAt payload
  | airtelMoney => Airtel.parseCallback receivedAt payload
  | tigoPesa => Tigo.parseCallback receivedAt payload

/-- The same within the capacity of a machine; none where it is aborted. -/
def parseCallback? (capacity : Nat) (provider : Provider) (receivedAt : Instant)
    (payload : ByteArray) : Option (Except PaymentError CallbackEvent) :=
  match provider with
  | mpesa => Mpesa.parseCallback? capacity receivedAt payload
  | airtelMoney => some (Airtel.parseCallback receivedAt payload)
  | tigoPesa => Tigo.parseCallback? capacity receivedAt payload

end Provider

end MobileMoney
