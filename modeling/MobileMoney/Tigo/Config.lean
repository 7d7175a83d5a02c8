import MobileMoney.Rail.Rules
import MobileMoney.Settings.ServiceEnvironment
import MobileMoney.Text.Outline

/-!
# Tigo Pesa configuration

What a biller has agreed with Tigo Pesa, and the rules of the rail.
-/

namespace MobileMoney.Tigo

def limits : AmountLimits := ⟨1000, 10000000⟩

def textLength : Nat := 50

def companyNameLength : Nat := 100

def rules : RailRules where
  provider := .tigoPesa
  currency := "TZS"
  callingCode := "255"
  collectionLimits := limits
  disbursementLimits := limits
  referenceLength := textLength
  descriptionLength := textLength

structure Config where
  apiKey : String
  apiSecret : String
  billerCode : String
  companyName : String
  callbackSecret : Option String
  environment : ServiceEnvironment
  givenUrl : Option String
  collectionPath : String
deriving DecidableEq

namespace Config

def standardPath : String := "/API/BillerPayments/BillerPay"

def read (vars : Variables) : Except SettingError Config := do
  let apiKey ← vars.required "TIGO_API_KEY"
  let apiSecret ← vars.required "TIGO_API_SECRET"
  let billerCode ← vars.required "TIGO_BILLER_CODE"
  let companyName ← vars.required "TIGO_COMPANY_NAME"
  let environment ← ServiceEnvironment.ofVariable vars "TIGO_ENVIRONMENT"
  return {
    apiKey, apiSecret, billerCode, companyName, environment
    callbackSecret := vars.optional? "TIGO_CALLBACK_SECRET"
    givenUrl := vars.optional? "TIGO_BASE_URL"
    collectionPath := (vars.optional? "TIGO_COLLECTION_PATH").getD standardPath }

def baseUrl (config : Config) : String :=
  serviceUrl config.givenUrl "https://accessgwtest.tigo.co.tz:8443"
    "https://accessgw.tigo.co.tz:8443" config.environment

def outline (config : Config) : Outline where
  title := "TigoConfig"
  fields := [
    ("biller_code", Text.quote config.billerCode),
    ("company_name", Text.quote config.companyName),
    ("environment", config.environment.name),
    ("base_url", Text.quoteOptional config.givenUrl),
    ("collection_path", Text.quote config.collectionPath)]
  isOpen := true

end Config

end MobileMoney.Tigo
