import MobileMoney.Callback.Signature
import MobileMoney.Payment.Response
import MobileMoney.Session
import MobileMoney.Tigo.Callback

/-!
# Tigo Pesa accounts

The one call of a biller: a payment prompt, sent as a signed document.
-/

namespace MobileMoney.Tigo

structure Account where
  config : Config

namespace Account

def endpoint (account : Account) : String :=
  account.config.baseUrl ++ account.config.collectionPath

def collectionDocument (account : Account) (identifier : String) (prepared : PreparedCollection) :
    Markup.Document where
  root := "COMMAND"
  fields := [
    ("TXNID", identifier),
    ("MSISDN", prepared.msisdn),
    ("AMOUNT", Decimal.write prepared.amount),
    ("COMPANYNAME", Text.truncate companyNameLength account.config.companyName),
    ("BILLERCODE", account.config.billerCode),
    ("CUSTOMERREFERENCEID", prepared.reference)]

def collectionRequest (account : Account) (document : String) : Request where
  method := .post
  url := account.endpoint
  headers := [
    ("content-type", "application/xml"),
    ("x-api-key", account.config.apiKey),
    ("x-signature", Signature.sign document.toUTF8 account.config.apiSecret)]
  body := .text document

/-- A reply with one of these statuses has taken the request on. -/
def acceptedStatuses : List String := ["SUCCESS", "PENDING"]

def rejection (status : String) (element : String → Option String) : PaymentError :=
  let quoted := Text.quote status
  let message := (element "MESSAGE").getD s!"unexpected status {quoted}"
  let code := (element "ERRORCODE").or (if status.isEmpty then none else some status)
  .rejected .tigoPesa message code false

/-- A reply without an identifier stands for the one that was sent. -/
def collectionResponse (identifier : String) (prepared : PreparedCollection) (reply : Reply) :
    Except PaymentError PaymentResponse := do
  let reply ← reply.checked
  let element := Markup.extract? reply.body
  let status := (element "STATUS").getD ""
  if Text.upper status ∉ acceptedStatuses then throw (rejection status element)
  return {
    provider := .tigoPesa
    status := .pending
    providerReference := (element "TXNID").getD identifier
    secondaryReference := element "REFERENCEID"
    reference := prepared.reference
    customerMessage := element "MESSAGE" }

def collect (account : Account) (request : CollectionRequest) : Call PaymentResponse := do
  let prepared ← Call.ofExcept (rules.prepareCollection request)
  let identifier ← Call.drawIdentifier
  let document := (account.collectionDocument identifier prepared).render
  let reply ← Call.send .tigoPesa (account.collectionRequest document)
  Call.ofExcept (collectionResponse identifier prepared reply)

end Account

end MobileMoney.Tigo
