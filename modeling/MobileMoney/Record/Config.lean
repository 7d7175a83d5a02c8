import MobileMoney.Airtel.Config
import MobileMoney.Mpesa.Config
import MobileMoney.Record.Basic
import MobileMoney.Tigo.Config

/-!
# Configuration records

The configurations of the rails as documents, each with the address that it leads to.
-/

namespace MobileMoney

def ServiceEnvironment.toJson (environment : ServiceEnvironment) : Json :=
  .text environment.code

def Mpesa.Config.toJson (config : Mpesa.Config) : Json :=
  .object [
    ("consumer_key", .text config.consumerKey),
    ("consumer_secret", .text config.consumerSecret),
    ("business_short_code", .text config.shortCode),
    ("passkey", .text config.passkey),
    ("callback_url", .text config.callbackUrl),
    ("b2c_short_code", .optionalText config.payoutShortCode),
    ("initiator_name", .optionalText config.initiatorName),
    ("security_credential", .optionalText config.securityCredential),
    ("b2c_result_url", .optionalText config.resultUrl),
    ("b2c_timeout_url", .optionalText config.timeoutUrl),
    ("callback_secret", .optionalText config.callbackSecret),
    ("environment", config.environment.toJson),
    ("base_url_override", .optionalText config.givenUrl),
    ("base_url", .text config.baseUrl)]

def Airtel.Config.toJson (config : Airtel.Config) : Json :=
  .object [
    ("client_id", .text config.clientId),
    ("client_secret", .text config.clientSecret),
    ("country", .text config.country),
    ("disbursement_pin", .optionalText config.disbursementPin),
    ("callback_secret", .optionalText config.callbackSecret),
    ("environment", config.environment.toJson),
    ("base_url_override", .optionalText config.givenUrl),
    ("base_url", .text config.baseUrl)]

def Tigo.Config.toJson (config : Tigo.Config) : Json :=
  .object [
    ("api_key", .text config.apiKey),
    ("api_secret", .text config.apiSecret),
    ("biller_code", .text config.billerCode),
    ("company_name", .text config.companyName),
    ("callback_secret", .optionalText config.callbackSecret),
    ("environment", config.environment.toJson),
    ("collection_path", .text config.collectionPath),
    ("base_url_override", .optionalText config.givenUrl),
    ("base_url", .text config.baseUrl)]

end MobileMoney
