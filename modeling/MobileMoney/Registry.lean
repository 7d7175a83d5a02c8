import MobileMoney.Account
import MobileMoney.Settings.Basic

/-!
# Registry

The accounts of the enabled providers.  A notification is authenticated before it is read.
-/

namespace MobileMoney

/-- A list of enabled providers, each once and in the order of first mention. -/
structure EnabledProviders where
  providers : List Provider
  nodup : providers.Nodup
deriving DecidableEq

namespace EnabledProviders

def empty : EnabledProviders := ⟨[], .nil⟩

def insert (enabled : EnabledProviders) (provider : Provider) : EnabledProviders :=
  if h : provider ∈ enabled.providers then enabled
  else ⟨enabled.providers ++ [provider], by
    rw [List.nodup_append]
    refine ⟨enabled.nodup, by simp, ?_⟩
    rintro a ha b hb rfl
    exact h (List.mem_singleton.mp hb ▸ ha)⟩

/-- The parts of a text between commas. -/
def parts (cs : List Char) : List (List Char) :=
  cs.foldr (fun c parts ↦
    if c = ',' then [] :: parts
    else
      match parts with
      | [] => [[c]]
      | part :: rest => (c :: part) :: rest) [[]]

/-- Adds the provider that a part names; a blank part adds none. -/
def insertNamed (enabled : EnabledProviders) (part : String) :
    Except SettingError EnabledProviders :=
  if Text.isBlankText part then .ok enabled
  else
    match Provider.ofAlias? part with
    | some provider => .ok (enabled.insert provider)
    | none =>
      let reason := Provider.unsupportedMessage (Text.trim part)
      .error (.invalid s!"ENABLED_PAYMENT_PROVIDERS: {reason}")

/-- Reads names separated by commas. -/
def parse (text : String) : Except SettingError EnabledProviders :=
  (parts text.toList).foldlM (fun enabled part ↦ enabled.insertNamed (String.ofList part)) empty

def read (vars : Variables) : Except SettingError EnabledProviders :=
  parse ((vars.value? "ENABLED_PAYMENT_PROVIDERS").getD "mpesa,airtel_money,tigo_pesa")

end EnabledProviders

/-- At most one account for each provider, under the provider that the account is with. -/
structure Registry where
  account? : Provider → Option Account
  keyed : ∀ provider account, account? provider = some account → account.provider = provider

namespace Registry

def empty : Registry := ⟨fun _ ↦ none, fun _ _ h ↦ nomatch h⟩

def register (registry : Registry) (account : Account) : Registry where
  account? provider :=
    if provider = account.provider then some account else registry.account? provider
  keyed provider found h := by
    split at h
    · next heq =>
      obtain rfl := Option.some.inj h
      exact heq.symm
    · exact registry.keyed provider found h

def readAccount (vars : Variables) (policy : RetryPolicy) :
    Provider → Except SettingError Account
  | .mpesa => return .mpesa ⟨← Mpesa.Config.read vars, policy⟩
  | .airtelMoney => return .airtel (← Airtel.Account.of (← Airtel.Config.read vars) policy)
  | .tigoPesa => return .tigo ⟨← Tigo.Config.read vars⟩

/-- The accounts of the enabled providers, as variables describe them. -/
def read (settings : Settings) (vars : Variables) : Except SettingError Registry := do
  let enabled ← EnabledProviders.read vars
  enabled.providers.foldlM (fun registry provider ↦
    return registry.register (← readAccount vars settings.retry.policy provider)) empty

def get (registry : Registry) (provider : Provider) : Except PaymentError Account :=
  match registry.account? provider with
  | some account => .ok account
  | none =>
    let code := provider.code
    .error (.invalid provider s!"provider {code} is not enabled" "provider")

/-- The providers that have an account. -/
def list (registry : Registry) : List Provider :=
  Provider.all.filter fun provider ↦ (registry.account? provider).isSome

/-- The account that may read a notification. -/
def authenticate (registry : Registry) (provider : Provider) (payload : ByteArray)
    (signature : Option String) : Except PaymentError Account := do
  let account ← registry.get provider
  account.verifyCallback payload signature
  return account

def processCallback (registry : Registry) (provider : Provider) (receivedAt : Instant)
    (payload : ByteArray) (signature : Option String) : Except PaymentError CallbackEvent := do
  let account ← registry.authenticate provider payload signature
  account.provider.parseCallback receivedAt payload

/-- The same within the capacity of a machine; none where it is aborted. -/
def processCallback? (capacity : Nat) (registry : Registry) (provider : Provider)
    (receivedAt : Instant) (payload : ByteArray) (signature : Option String) :
    Option (Except PaymentError CallbackEvent) :=
  Payload.andThen? (registry.authenticate provider payload signature) fun account ↦
    account.provider.parseCallback? capacity receivedAt payload

end Registry

end MobileMoney
