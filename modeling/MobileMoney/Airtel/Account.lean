import MobileMoney.Airtel.Callback
import MobileMoney.Airtel.Config
import MobileMoney.Payment.Response
import MobileMoney.Token.Grant

/-!
# Airtel Money accounts

The calls of a merchant in one market.  A collection and a disbursement are sent once; a question
about a transaction may be repeated.
-/

namespace MobileMoney.Airtel

structure Account where
  config : Config
  market : Market
  policy : RetryPolicy

/-- The answer to a request: its result code and its message. -/
structure Envelope where
  code : Option String
  message : Option String

def Envelope.ofDocument (document : Json) : Envelope :=
  ⟨document.scalarAt? ["status", "result_code"], document.scalarAt? ["status", "message"]⟩

def Envelope.rejection (envelope : Envelope) : PaymentError :=
  .rejected .airtelMoney (envelope.message.getD "request rejected") envelope.code false

def transactionPath : List String := ["data", "transaction"]

namespace Account

/-- An account for the market of the configured country. -/
def of (config : Config) (policy : RetryPolicy) : Except SettingError Account :=
  match Market.ofCountry? config.country with
  | some market => .ok ⟨config, market, policy⟩
  | none => .error (.invalid (Market.unknownMessage config.country))

def tokenKey (account : Account) : TokenKey :=
  ⟨.airtelMoney, account.config.clientId⟩

def exchangeRequest (account : Account) : Request where
  method := .post
  url := account.config.baseUrl ++ "/auth/oauth2/token"
  headers := [jsonContent]
  body := .json (.object [
    ("client_id", .text account.config.clientId),
    ("client_secret", .text account.config.clientSecret),
    ("grant_type", .text "client_credentials")])

def accessToken (account : Account) : Call String :=
  Call.accessToken account.policy account.tokenKey account.exchangeRequest

def marketHeaders (account : Account) (token : String) : List (String × String) :=
  [bearer token, ("x-country", account.config.country), ("x-currency", account.market.currency)]

def getRequest (account : Account) (path token : String) : Request where
  method := .get
  url := account.config.baseUrl ++ path
  headers := account.marketHeaders token
  body := .none

def postRequest (account : Account) (path : String) (body : Json) (token : String) : Request where
  method := .post
  url := account.config.baseUrl ++ path
  headers := account.marketHeaders token ++ [jsonContent]
  body := .json body

/-- Sends an authorized request and takes its reply if it is a success. -/
def send (account : Account) (request : String → Request) : Call Reply := do
  let token ← account.accessToken
  let reply ← Call.sendAuthorized account.tokenKey (request token)
  Call.ofExcept reply.checked

/-- The number that the market expects: without the calling code. -/
def localNumber (account : Account) (msisdn : String) : String :=
  Msisdn.withoutCallingCode msisdn account.market.callingCode

def collectionBody (account : Account) (prepared : PreparedCollection) : Json :=
  let country := Json.text account.config.country
  let currency := Json.text account.market.currency
  .object [
    ("reference", .text prepared.description),
    ("subscriber", .object [
      ("country", country),
      ("currency", currency),
      ("msisdn", .text (account.localNumber prepared.msisdn))]),
    ("transaction", .object [
      ("amount", .nat prepared.amount),
      ("country", country),
      ("currency", currency),
      ("id", .text prepared.reference)])]

/-- A reply without an identifier stands for the one that was sent. -/
def collectionResponse (prepared : PreparedCollection) (reply : Reply) :
    Except PaymentError PaymentResponse := do
  let document ← reply.document
  let envelope := Envelope.ofDocument document
  if envelope.code ≠ some succeededCode then throw envelope.rejection
  return {
    provider := .airtelMoney
    status := .pending
    providerReference := (document.scalarAt? (transactionPath ++ ["id"])).getD prepared.reference
    secondaryReference := none
    reference := prepared.reference
    customerMessage := envelope.message }

def collect (account : Account) (request : CollectionRequest) : Call PaymentResponse := do
  let prepared ← Call.ofExcept (account.market.rules.prepareCollection request)
  let reply ← account.send
    (account.postRequest "/merchant/v1/payments/" (account.collectionBody prepared))
  Call.ofExcept (collectionResponse prepared reply)

def pin (account : Account) (request : DisbursementRequest) : Except PaymentError String :=
  match request.securityCredential.or account.config.disbursementPin with
  | some pin => .ok pin
  | none =>
    .error (.invalid .airtelMoney "disbursement PIN is not configured" "security_credential")

def disbursementBody (account : Account) (pin : String) (prepared : PreparedDisbursement) : Json :=
  .object [
    ("payee", .object [("msisdn", .text (account.localNumber prepared.msisdn))]),
    ("reference", .text prepared.remarks),
    ("pin", .text pin),
    ("transaction", .object [
      ("amount", .nat prepared.amount),
      ("id", .text prepared.reference)])]

/-- A disbursement has been taken on when the reply says so or the transaction is under way. -/
def isAccepted (document : Json) : Bool :=
  (Envelope.ofDocument document).code = some succeededCode ||
    (document.scalarAt? (transactionPath ++ ["status"])).any fun status ↦
      status = succeededCode || openCodes.contains status

/-- The identifier of the rail: `reference_id`, or `airtel_money_id` where that is not there. -/
def railReference? (document : Json) : Option String := do
  let transaction ← document.at? transactionPath
  ((transaction.member? "reference_id").or (transaction.member? "airtel_money_id")).bind
    Json.scalar?

def disbursementResponse (prepared : PreparedDisbursement) (reply : Reply) :
    Except PaymentError PaymentResponse := do
  let document ← reply.document
  let envelope := Envelope.ofDocument document
  if !isAccepted document then throw envelope.rejection
  return {
    provider := .airtelMoney
    status := .pending
    providerReference := prepared.reference
    secondaryReference := railReference? document
    reference := prepared.reference
    customerMessage := envelope.message }

def disburse (account : Account) (request : DisbursementRequest) : Call PaymentResponse := do
  let prepared ← Call.ofExcept
    (account.market.rules.prepareDisbursement Market.textLength request)
  let pin ← Call.ofExcept (account.pin request)
  let reply ← account.send
    (account.postRequest "/standard/v1/disbursements/" (account.disbursementBody pin prepared))
  Call.ofExcept (disbursementResponse prepared reply)

def queryResponse (id : String) (reply : Reply) : Except PaymentError StatusResponse := do
  let document ← reply.document
  let code := document.scalarAt? (transactionPath ++ ["status"])
  return ⟨.airtelMoney, id, statusOfCode code, code,
    document.scalarAt? (transactionPath ++ ["message"])⟩

def queryOnce (account : Account) (id : String) : Call StatusResponse := do
  let reply ← account.send (account.getRequest ("/standard/v1/payments/" ++ id))
  Call.ofExcept (queryResponse id reply)

def query (account : Account) (id : String) : Call StatusResponse := do
  if Text.isBlankText id then
    throw (.invalid .airtelMoney "transaction id is required" "provider_reference")
  Call.retried account.policy (account.queryOnce id)

end Account

end MobileMoney.Airtel
