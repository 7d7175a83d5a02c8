import MobileMoney.Rail.Rules

/-!
# Airtel Money markets

The countries that are served, each with its currency and its calling code.
-/

namespace MobileMoney.Airtel

structure Market where
  country : String
  currency : String
  callingCode : String
deriving DecidableEq

namespace Market

def all : List Market := [
  ⟨"KE", "KES", "254"⟩,
  ⟨"UG", "UGX", "256"⟩,
  ⟨"TZ", "TZS", "255"⟩,
  ⟨"RW", "RWF", "250"⟩,
  ⟨"ZM", "ZMW", "260"⟩,
  ⟨"MW", "MWK", "265"⟩]

/-- The market of a country code, in any case and with blanks around it. -/
def ofCountry? (country : String) : Option Market :=
  all.find? (·.country = Text.upper (Text.trim country))

def unknownMessage (country : String) : String :=
  s!"AIRTEL_COUNTRY {country} is not an Airtel Money market"

def limits : AmountLimits := ⟨500, 5000000⟩

def textLength : Nat := 50

def rules (market : Market) : RailRules where
  provider := .airtelMoney
  currency := market.currency
  callingCode := market.callingCode
  collectionLimits := limits
  disbursementLimits := limits
  referenceLength := textLength
  descriptionLength := textLength

end Market

end MobileMoney.Airtel
