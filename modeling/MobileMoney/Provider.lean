import MobileMoney.Text.Blank
import MobileMoney.Text.CaseMap

/-!
# Providers

The mobile money rails and the names they are known by.
-/

namespace MobileMoney

inductive Provider where
  | mpesa
  | airtelMoney
  | tigoPesa
deriving DecidableEq

namespace Provider

def all : List Provider := [mpesa, airtelMoney, tigoPesa]

def code : Provider → String
  | mpesa => "mpesa"
  | airtelMoney => "airtel_money"
  | tigoPesa => "tigo_pesa"

def displayName : Provider → String
  | mpesa => "M-Pesa"
  | airtelMoney => "Airtel Money"
  | tigoPesa => "Tigo Pesa"

/-- The names of a provider, the first one its code; each in lower case. -/
def aliases : Provider → List String
  | mpesa => ["mpesa", "m-pesa"]
  | airtelMoney => ["airtel_money", "airtel", "airtel-money"]
  | tigoPesa => ["tigo_pesa", "tigo", "tigo-pesa", "tigopesa"]

def ofCode? (code : String) : Option Provider :=
  all.find? (·.code = code)

/-- The provider of which a text is an alias, in any case and with blanks around it. -/
def ofAlias? (text : String) : Option Provider :=
  all.find? fun provider ↦ Text.lower (Text.trim text) ∈ provider.aliases

def unsupportedMessage (text : String) : String :=
  s!"unsupported provider: {text}"

end Provider

end MobileMoney
