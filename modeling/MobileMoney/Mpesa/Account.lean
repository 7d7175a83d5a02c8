import MobileMoney.Digest.Base64
import MobileMoney.Mpesa.Callback
import MobileMoney.Payment.Response
import MobileMoney.Token.Grant

/-!
# M-Pesa accounts

The calls of a merchant: a payment prompt on the phone of a payer, a disbursement from the merchant
to a consumer, and a question about a prompt.  A prompt and a disbursement are sent once; a question
may be repeated.
-/

namespace MobileMoney.Mpesa

structure Account where
  config : Config
  policy : RetryPolicy

/-- The password of a prompt. -/
def promptPassword (shortCode passkey timestamp : String) : String :=
  Digest.Base64.encode (shortCode ++ passkey ++ timestamp)

structure PromptReply where
  merchantRequestId : String
  checkoutRequestId : String
  code : String
  description : Option String
  customerMessage : Option String

def PromptReply.read? (record : Json) : Option PromptReply := do
  match ← record.slots? ["MerchantRequestID", "CheckoutRequestID", "ResponseCode",
    "ResponseDescription", "CustomerMessage"] with
  | [merchant, checkout, code, description, customerMessage] =>
    return ⟨← merchant.required? Json.text?, ← checkout.required? Json.text?,
      ← code.required? Json.text?, ← description.optional? Json.text?,
      ← customerMessage.optional? Json.text?⟩
  | _ => none

structure PayoutReply where
  conversationId : String
  originatorConversationId : String
  code : String
  description : Option String

def PayoutReply.read? (record : Json) : Option PayoutReply := do
  match ← record.slots? ["ConversationID", "OriginatorConversationID", "ResponseCode",
    "ResponseDescription"] with
  | [conversation, originator, code, description] =>
    return ⟨← conversation.required? Json.text?, ← originator.required? Json.text?,
      ← code.required? Json.text?, ← description.optional? Json.text?⟩
  | _ => none

/-- The response code of a request that has been taken on. -/
def acceptedCode : String := "0"

/-- The error code of a question that comes before the payer has answered. -/
def stillProcessingCode : String := "500.001.1001"

def rejection (code : String) (description : Option String) : PaymentError :=
  .rejected .mpesa (description.getD "request rejected") (some code) false

/-- Puts hyphens into an identifier of 32 digits. -/
def hyphenated (identifier : String) : String :=
  let cs := identifier.toList
  let part (start count : Nat) := (cs.drop start).take count
  String.ofList (['-'].intercalate [part 0 8, part 8 4, part 12 4, part 16 4, part 20 12])

namespace Account

def tokenKey (account : Account) : TokenKey :=
  ⟨.mpesa, account.config.consumerKey⟩

def exchangeRequest (account : Account) : Request :=
  let credentials := account.config.consumerKey ++ ":" ++ account.config.consumerSecret
  { method := .get
    url := account.config.baseUrl ++ "/oauth/v1/generate?grant_type=client_credentials"
    headers := [("authorization", "Basic " ++ Digest.Base64.encode credentials)]
    body := .none }

def accessToken (account : Account) : Call String :=
  Call.accessToken account.policy account.tokenKey account.exchangeRequest

def postRequest (account : Account) (path : String) (body : Json) (token : String) : Request where
  method := .post
  url := account.config.baseUrl ++ path
  headers := [bearer token, jsonContent]
  body := .json body

def post (account : Account) (path : String) (body : Json) : Call Reply := do
  let token ← account.accessToken
  Call.sendAuthorized account.tokenKey (account.postRequest path body token)

def password (account : Account) (timestamp : String) : String :=
  promptPassword account.config.shortCode account.config.passkey timestamp

def promptBody (account : Account) (timestamp : String) (prepared : PreparedCollection) : Json :=
  .object [
    ("BusinessShortCode", .text account.config.shortCode),
    ("Password", .text (account.password timestamp)),
    ("Timestamp", .text timestamp),
    ("TransactionType", .text "CustomerPayBillOnline"),
    ("Amount", .nat prepared.amount),
    ("PartyA", .text prepared.msisdn),
    ("PartyB", .text account.config.shortCode),
    ("PhoneNumber", .text prepared.msisdn),
    ("CallBackURL", .text account.config.callbackUrl),
    ("AccountReference", .text prepared.reference),
    ("TransactionDesc", .text prepared.description)]

def promptResponse (prepared : PreparedCollection) (reply : Reply) :
    Except PaymentError PaymentResponse := do
  let reply ← reply.checked
  let answer ← reply.record PromptReply.read?
  if answer.code ≠ acceptedCode then throw (rejection answer.code answer.description)
  return {
    provider := .mpesa
    status := .pending
    providerReference := answer.checkoutRequestId
    secondaryReference := some answer.merchantRequestId
    reference := prepared.reference
    customerMessage := answer.customerMessage }

def collect (account : Account) (request : CollectionRequest) : Call PaymentResponse := do
  let prepared ← Call.ofExcept (rules.prepareCollection request)
  let timestamp := (← Call.readClock).eastAfricaStamp
  let reply ← account.post "/mpesa/stkpush/v1/processrequest"
    (account.promptBody timestamp prepared)
  Call.ofExcept (promptResponse prepared reply)

/-- What a disbursement needs besides the request. -/
structure PayoutTerms where
  initiatorName : String
  securityCredential : String
  resultUrl : String
  timeoutUrl : String
  shortCode : String

def demand (value : Option String) (complaint field : String) : Except PaymentError String :=
  match value with
  | some value => .ok value
  | none => .error (.invalid .mpesa complaint field)

def payoutTerms (account : Account) (request : DisbursementRequest) :
    Except PaymentError PayoutTerms := do
  let config := account.config
  let initiatorName ← demand (request.initiatorName.or config.initiatorName)
    "B2C initiator name is not configured" "initiator_name"
  let securityCredential ← demand (request.securityCredential.or config.securityCredential)
    "B2C security credential is not configured" "security_credential"
  let resultUrl ← demand config.resultUrl "B2C result URL is not configured" "b2c_result_url"
  return {
    initiatorName, securityCredential, resultUrl
    timeoutUrl := config.timeoutUrl.getD resultUrl
    shortCode := config.payoutShortCode.getD config.shortCode }

def payoutBody (identifier : String) (purpose : DisbursementPurpose) (terms : PayoutTerms)
    (prepared : PreparedDisbursement) : Json :=
  .object [
    ("OriginatorConversationID", .text (hyphenated identifier)),
    ("InitiatorName", .text terms.initiatorName),
    ("SecurityCredential", .text terms.securityCredential),
    ("CommandID", .text purpose.name),
    ("Amount", .nat prepared.amount),
    ("PartyA", .text terms.shortCode),
    ("PartyB", .text prepared.msisdn),
    ("Remarks", .text prepared.remarks),
    ("QueueTimeOutURL", .text terms.timeoutUrl),
    ("ResultURL", .text terms.resultUrl),
    ("Occasion", .text prepared.occasion)]

def payoutResponse (prepared : PreparedDisbursement) (reply : Reply) :
    Except PaymentError PaymentResponse := do
  let reply ← reply.checked
  let answer ← reply.record PayoutReply.read?
  if answer.code ≠ acceptedCode then throw (rejection answer.code answer.description)
  return {
    provider := .mpesa
    status := .pending
    providerReference := answer.conversationId
    secondaryReference := some answer.originatorConversationId
    reference := prepared.reference
    customerMessage := answer.description }

def disburse (account : Account) (request : DisbursementRequest) : Call PaymentResponse := do
  let prepared ← Call.ofExcept (rules.prepareDisbursement remarksLength request)
  let terms ← Call.ofExcept (account.payoutTerms request)
  let identifier ← Call.drawIdentifier
  let reply ← account.post "/mpesa/b2c/v1/paymentrequest"
    (payoutBody identifier request.purpose terms prepared)
  Call.ofExcept (payoutResponse prepared reply)

def queryBody (account : Account) (timestamp id : String) : Json :=
  .object [
    ("BusinessShortCode", .text account.config.shortCode),
    ("Password", .text (account.password timestamp)),
    ("Timestamp", .text timestamp),
    ("CheckoutRequestID", .text id)]

/-- A refusal because the payer has not answered yet means that the payment is pending. -/
def queryResponse (id : String) (reply : Reply) : Except PaymentError StatusResponse := do
  if reply.isSuccess then
    let document ← reply.document
    let code := document.scalarAt? ["ResultCode"]
    return ⟨.mpesa, id, statusOfCode code, code, document.scalarAt? ["ResultDesc"]⟩
  let details := ErrorDetails.ofBody reply.body
  if details.code = some stillProcessingCode then
    return ⟨.mpesa, id, .pending, details.code, details.description⟩
  throw reply.error

def queryOnce (account : Account) (id : String) : Call StatusResponse := do
  let timestamp := (← Call.readClock).eastAfricaStamp
  let reply ← account.post "/mpesa/stkpushquery/v1/query" (account.queryBody timestamp id)
  Call.ofExcept (queryResponse id reply)

def query (account : Account) (id : String) : Call StatusResponse := do
  if Text.isBlankText id then
    throw (.invalid .mpesa "CheckoutRequestID is required" "provider_reference")
  Call.retried account.policy (account.queryOnce id)

end Account

end MobileMoney.Mpesa
