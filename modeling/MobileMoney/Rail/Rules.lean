import MobileMoney.Payment.Request
import MobileMoney.Rail.Msisdn

/-!
# Rail rules

What a rail accepts: one currency, whole major units between two limits, a reference, a phone
number, and remarks for a disbursement.  A request that passes is prepared in the form in which it
is sent. The checks are made in this order and the first that fails is reported.
-/

namespace MobileMoney

/-- Inclusive limits in major units. -/
structure AmountLimits where
  min : Nat
  max : Nat
deriving DecidableEq

def AmountLimits.contains (limits : AmountLimits) (major : Nat) : Bool :=
  limits.min ≤ major && major ≤ limits.max

structure RailRules where
  provider : Provider
  currency : String
  callingCode : String
  collectionLimits : AmountLimits
  disbursementLimits : AmountLimits
  referenceLength : Nat
  descriptionLength : Nat
deriving DecidableEq

structure PreparedCollection where
  amount : Nat
  msisdn : String
  reference : String
  description : String
deriving DecidableEq

structure PreparedDisbursement where
  amount : Nat
  msisdn : String
  reference : String
  remarks : String
  occasion : String
deriving DecidableEq

namespace RailRules

def checkCurrency (rules : RailRules) (amount : Money) : Except PaymentError Unit :=
  if amount.currency.code = rules.currency then .ok ()
  else
    let name := rules.provider.displayName
    let currency := rules.currency
    let given := amount.currency.code
    .error (.invalid rules.provider s!"{name} accepts {currency} only, got {given}" "currency")

def checkLimits (rules : RailRules) (limits : AmountLimits) (major : Nat) :
    Except PaymentError Unit :=
  if limits.contains major then .ok ()
  else
    let currency := rules.currency
    let amount := Decimal.write major
    let least := Decimal.write limits.min
    let most := Decimal.write limits.max
    .error (.invalid rules.provider
      s!"amount {amount} {currency} is outside the allowed range {least}-{most}" "amount")

/-- The amount in major units. -/
def checkAmount (rules : RailRules) (limits : AmountLimits) (amount : Money) :
    Except PaymentError Nat := do
  rules.checkCurrency amount
  let major ← amount.toMajor.mapError fun error ↦
    .invalid rules.provider error.message "amount"
  rules.checkLimits limits major
  return major

/-- The reference as it is sent. -/
def checkReference (rules : RailRules) (reference : String) : Except PaymentError String :=
  let sent := Text.truncate rules.referenceLength reference
  if sent.isEmpty then .error (.invalid rules.provider "reference is required" "reference")
  else .ok sent

def checkRemarks (rules : RailRules) (remarks : String) : Except PaymentError Unit :=
  if Text.isBlankText remarks then
    .error (.invalid rules.provider "remarks are required" "remarks")
  else .ok ()

def prepareCollection (rules : RailRules) (request : CollectionRequest) :
    Except PaymentError PreparedCollection := do
  let amount ← rules.checkAmount rules.collectionLimits request.amount
  let reference ← rules.checkReference request.reference
  let msisdn ← Msisdn.normalize rules.provider request.payerPhone rules.callingCode
  let description := request.description.getD request.reference
  return ⟨amount, msisdn, reference, Text.truncate rules.descriptionLength description⟩

def prepareDisbursement (rules : RailRules) (remarksLength : Nat) (request : DisbursementRequest) :
    Except PaymentError PreparedDisbursement := do
  let amount ← rules.checkAmount rules.disbursementLimits request.amount
  let reference ← rules.checkReference request.reference
  let msisdn ← Msisdn.normalize rules.provider request.recipientPhone rules.callingCode
  rules.checkRemarks request.remarks
  return ⟨amount, msisdn, reference, Text.truncate remarksLength request.remarks,
    Text.truncate remarksLength (request.occasion.getD "")⟩

end RailRules

end MobileMoney
