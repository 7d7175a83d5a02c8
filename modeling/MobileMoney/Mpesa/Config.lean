import MobileMoney.Rail.Rules
import MobileMoney.Settings.ServiceEnvironment
import MobileMoney.Text.Outline

/-!
# M-Pesa configuration

What a merchant has agreed with M-Pesa, and the rules of the rail.
-/

namespace MobileMoney.Mpesa

def rules : RailRules where
  provider := .mpesa
  currency := "KES"
  callingCode := "254"
  collectionLimits := ⟨1, 150000⟩
  disbursementLimits := ⟨10, 150000⟩
  referenceLength := 12
  descriptionLength := 13

def remarksLength : Nat := 100

/-- Disbursements are paid from a short code of their own when there is one. -/
structure Config where
  consumerKey : String
  consumerSecret : String
  shortCode : String
  passkey : String
  callbackUrl : String
  payoutShortCode : Option String
  initiatorName : Option String
  securityCredential : Option String
  resultUrl : Option String
  timeoutUrl : Option String
  callbackSecret : Option String
  environment : ServiceEnvironment
  givenUrl : Option String
deriving DecidableEq

namespace Config

def read (vars : Variables) : Except SettingError Config := do
  let consumerKey ← vars.required "MPESA_CONSUMER_KEY"
  let consumerSecret ← vars.required "MPESA_CONSUMER_SECRET"
  let shortCode ← vars.required "MPESA_SHORTCODE"
  let passkey ← vars.required "MPESA_PASSKEY"
  let callbackUrl ← vars.required "MPESA_CALLBACK_URL"
  let environment ← ServiceEnvironment.ofVariable vars "MPESA_ENVIRONMENT"
  return {
    consumerKey, consumerSecret, shortCode, passkey, callbackUrl, environment
    payoutShortCode := vars.optional? "MPESA_B2C_SHORTCODE"
    initiatorName := vars.optional? "MPESA_INITIATOR_NAME"
    securityCredential := vars.optional? "MPESA_SECURITY_CREDENTIAL"
    resultUrl := vars.optional? "MPESA_B2C_RESULT_URL"
    timeoutUrl := vars.optional? "MPESA_B2C_TIMEOUT_URL"
    callbackSecret := vars.optional? "MPESA_CALLBACK_SECRET"
    givenUrl := vars.optional? "MPESA_BASE_URL" }

def baseUrl (config : Config) : String :=
  serviceUrl config.givenUrl "https://sandbox.safaricom.co.ke" "https://api.safaricom.co.ke"
    config.environment

def outline (config : Config) : Outline where
  title := "MpesaConfig"
  fields := [
    ("consumer_key", Text.quote config.consumerKey),
    ("business_short_code", Text.quote config.shortCode),
    ("callback_url", Text.quote config.callbackUrl),
    ("b2c_short_code", Text.quoteOptional config.payoutShortCode),
    ("initiator_name", Text.quoteOptional config.initiatorName),
    ("environment", config.environment.name),
    ("base_url", Text.quoteOptional config.givenUrl)]
  isOpen := true

end Config

end MobileMoney.Mpesa
