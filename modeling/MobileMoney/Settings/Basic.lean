import MobileMoney.Retry
import MobileMoney.Settings.Variables
import MobileMoney.Text.CaseMap

/-!
# Settings

The settings of the program in five groups.  Each group is read from variables, in this order, and
has a check of its own; the settings are valid when every group is.
-/

namespace MobileMoney

inductive LogFormat where
  | json
  | plain
deriving DecidableEq

structure LogSettings where
  level : String
  format : LogFormat
deriving DecidableEq

namespace LogSettings

def levels : List String := ["TRACE", "DEBUG", "INFO", "WARN", "ERROR"]

def read (vars : Variables) : LogSettings :=
  ⟨(vars.value? "LOG_LEVEL").getD "INFO",
    if vars.value? "LOG_FORMAT" = some "json" then .json else .plain⟩

def check (settings : LogSettings) : Except SettingError Unit :=
  if Text.upper settings.level ∈ levels then .ok () else .error (.invalid "LOG_LEVEL")

end LogSettings

structure HttpSettings where
  timeoutSeconds : Nat
deriving DecidableEq

namespace HttpSettings

def read (vars : Variables) : Except SettingError HttpSettings :=
  return ⟨← vars.number "PAYMENT_TIMEOUT_SECONDS" UInt64.size 30⟩

def check (settings : HttpSettings) : Except SettingError Unit :=
  if settings.timeoutSeconds = 0 then .error (.invalid "PAYMENT_TIMEOUT_SECONDS cannot be 0")
  else .ok ()

end HttpSettings

structure RetrySettings where
  maxAttempts : Nat
  baseDelayMillis : Nat
  maxDelayMillis : Nat
deriving DecidableEq

namespace RetrySettings

def read (vars : Variables) : Except SettingError RetrySettings := do
  let maxAttempts ← vars.number "PAYMENT_RETRY_MAX_ATTEMPTS" UInt32.size 3
  let baseDelay ← vars.number "PAYMENT_RETRY_BASE_DELAY_MS" UInt64.size 250
  let maxDelay ← vars.number "PAYMENT_RETRY_MAX_DELAY_MS" UInt64.size 4000
  return ⟨maxAttempts, baseDelay, maxDelay⟩

def check (settings : RetrySettings) : Except SettingError Unit :=
  if settings.maxAttempts = 0 then
    .error (.invalid "PAYMENT_RETRY_MAX_ATTEMPTS must be at least 1")
  else if settings.maxDelayMillis < settings.baseDelayMillis then
    .error (.refused "PAYMENT_RETRY_BASE_DELAY_MS must be <= PAYMENT_RETRY_MAX_DELAY_MS")
  else .ok ()

def policy (settings : RetrySettings) : RetryPolicy :=
  .of settings.maxAttempts (.ofMillis settings.baseDelayMillis) (.ofMillis settings.maxDelayMillis)

end RetrySettings

structure TokenSettings where
  marginSeconds : Nat
deriving DecidableEq

namespace TokenSettings

/-- A token lives for about an hour: a margin of that length would never let it be used again. -/
def marginLimit : Nat := 3600

def read (vars : Variables) : Except SettingError TokenSettings :=
  return ⟨← vars.number "TOKEN_SAFETY_MARGIN_SECONDS" UInt64.size 60⟩

def check (settings : TokenSettings) : Except SettingError Unit :=
  if marginLimit ≤ settings.marginSeconds then
    .error (.refused "TOKEN_SAFETY_MARGIN_SECONDS must be below 3600")
  else .ok ()

def margin (settings : TokenSettings) : Duration :=
  .ofSeconds settings.marginSeconds

end TokenSettings

/-- How far a payment may be off the amount due, and whether one that is further off may still be
matched. -/
structure ReconciliationSettings where
  tolerance : Nat
  matchOutsideTolerance : Bool
deriving DecidableEq

namespace ReconciliationSettings

def standard : ReconciliationSettings := ⟨1, true⟩

def maxTolerance : Nat := 100

def readFlag? (text : String) : Option Bool :=
  if text = "true" then some true else if text = "false" then some false else none

def read (vars : Variables) : Except SettingError ReconciliationSettings := do
  let tolerance ← vars.number "RECONCILIATION_TOLERANCE_MINOR_UNITS" UInt64.size standard.tolerance
  let outside ← vars.readOr "RECONCILIATION_MATCH_OUTSIDE_TOLERANCE"
    standard.matchOutsideTolerance readFlag?
  return ⟨tolerance, outside⟩

def check (settings : ReconciliationSettings) : Except SettingError Unit :=
  if maxTolerance < settings.tolerance then
    .error (.refused "RECONCILIATION_TOLERANCE_MINOR_UNITS must be at most 100")
  else .ok ()

end ReconciliationSettings

structure Settings where
  log : LogSettings
  http : HttpSettings
  retry : RetrySettings
  tokens : TokenSettings
  reconciliation : ReconciliationSettings
deriving DecidableEq

namespace Settings

def read (vars : Variables) : Except SettingError Settings := do
  let http ← HttpSettings.read vars
  let retry ← RetrySettings.read vars
  let tokens ← TokenSettings.read vars
  let reconciliation ← ReconciliationSettings.read vars
  return ⟨.read vars, http, retry, tokens, reconciliation⟩

def check (settings : Settings) : Except SettingError Unit := do
  settings.log.check
  settings.http.check
  settings.retry.check
  settings.tokens.check
  settings.reconciliation.check

end Settings

end MobileMoney
