import MobileMoney.Money.Basic
import MobileMoney.Text.Outline

/-!
# Payment requests

A collection asks a payer for money, a disbursement sends money to a recipient.
-/

namespace MobileMoney

structure CollectionRequest where
  amount : Money
  payerPhone : String
  reference : String
  description : Option String
deriving DecidableEq

/-- What a disbursement is made for. -/
inductive DisbursementPurpose where
  | business
  | salary
  | promotion
deriving DecidableEq

namespace DisbursementPurpose

def all : List DisbursementPurpose := [business, salary, promotion]

def name : DisbursementPurpose → String
  | business => "BusinessPayment"
  | salary => "SalaryPayment"
  | promotion => "PromotionPayment"

def ofName? (name : String) : Option DisbursementPurpose :=
  all.find? (·.name = name)

end DisbursementPurpose

/-- The initiator and the credential replace those that the rail is set up with. -/
structure DisbursementRequest where
  amount : Money
  recipientPhone : String
  reference : String
  remarks : String
  occasion : Option String
  purpose : DisbursementPurpose
  initiatorName : Option String
  securityCredential : Option String
deriving DecidableEq

/-- A request without the phone number; a credential is shown by stars. -/
def DisbursementRequest.outline (request : DisbursementRequest) : Outline where
  title := "DisbursementRequest"
  fields := [
    ("amount", request.amount.outline.render),
    ("reference", Text.quote request.reference),
    ("remarks", Text.quote request.remarks),
    ("occasion", Text.quoteOptional request.occasion),
    ("command", request.purpose.name),
    ("initiator_name", Text.quoteOptional request.initiatorName),
    ("security_credential",
      Text.quoteOptional (request.securityCredential.map fun _ ↦ Outline.stars))]
  isOpen := true

end MobileMoney
