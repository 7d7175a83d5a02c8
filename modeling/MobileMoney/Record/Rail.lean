import MobileMoney.Rail.Rules
import MobileMoney.Record.Basic

/-!
# Rail records

Rules and prepared requests as documents.
-/

namespace MobileMoney

def AmountLimits.toJson (limits : AmountLimits) : Json :=
  .array [.nat limits.min, .nat limits.max]

def RailRules.toJson (rules : RailRules) : Json :=
  .object [
    ("provider", rules.provider.toJson),
    ("currency", .text rules.currency),
    ("calling_code", .text rules.callingCode),
    ("collection_limits", rules.collectionLimits.toJson),
    ("disbursement_limits", rules.disbursementLimits.toJson),
    ("reference_max_len", .nat rules.referenceLength),
    ("description_max_len", .nat rules.descriptionLength)]

def PreparedCollection.toJson (prepared : PreparedCollection) : Json :=
  .object [
    ("amount_major", .nat prepared.amount),
    ("msisdn", .text prepared.msisdn),
    ("reference", .text prepared.reference),
    ("description", .text prepared.description)]

def PreparedDisbursement.toJson (prepared : PreparedDisbursement) : Json :=
  .object [
    ("amount_major", .nat prepared.amount),
    ("msisdn", .text prepared.msisdn),
    ("reference", .text prepared.reference),
    ("remarks", .text prepared.remarks),
    ("occasion", .text prepared.occasion)]

end MobileMoney
