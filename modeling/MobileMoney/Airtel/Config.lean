import MobileMoney.Airtel.Market
import MobileMoney.Settings.ServiceEnvironment
import MobileMoney.Text.Outline

/-!
# Airtel Money configuration

What a merchant has agreed with Airtel Money.  A configuration read from variables names its market
in capital letters.
-/

namespace MobileMoney.Airtel

structure Config where
  clientId : String
  clientSecret : String
  country : String
  disbursementPin : Option String
  callbackSecret : Option String
  environment : ServiceEnvironment
  givenUrl : Option String
deriving DecidableEq

namespace Config

def read (vars : Variables) : Except SettingError Config := do
  let country := Text.upper (Text.trim ((vars.optional? "AIRTEL_COUNTRY").getD "KE"))
  if (Market.ofCountry? country).isNone then
    throw (.invalid (Market.unknownMessage country))
  let clientId ← vars.required "AIRTEL_CLIENT_ID"
  let clientSecret ← vars.required "AIRTEL_CLIENT_SECRET"
  let environment ← ServiceEnvironment.ofVariable vars "AIRTEL_ENVIRONMENT"
  return {
    clientId, clientSecret, country, environment
    disbursementPin := vars.optional? "AIRTEL_DISBURSEMENT_PIN"
    callbackSecret := vars.optional? "AIRTEL_CALLBACK_SECRET"
    givenUrl := vars.optional? "AIRTEL_BASE_URL" }

def baseUrl (config : Config) : String :=
  serviceUrl config.givenUrl "https://openapiuat.airtel.africa" "https://openapi.airtel.africa"
    config.environment

def outline (config : Config) : Outline where
  title := "AirtelConfig"
  fields := [
    ("client_id", Text.quote config.clientId),
    ("country", Text.quote config.country),
    ("environment", config.environment.name),
    ("base_url", Text.quoteOptional config.givenUrl)]
  isOpen := true

end Config

end MobileMoney.Airtel
