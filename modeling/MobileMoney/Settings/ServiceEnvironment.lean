import MobileMoney.Settings.Variables
import MobileMoney.Text.CaseMap

/-!
# Service environments

A rail is reached at its test service or at its live service.
-/

namespace MobileMoney

inductive ServiceEnvironment where
  | sandbox
  | production
deriving DecidableEq

namespace ServiceEnvironment

def code : ServiceEnvironment → String
  | sandbox => "sandbox"
  | production => "production"

def name : ServiceEnvironment → String
  | sandbox => "Sandbox"
  | production => "Production"

/-- The names of an environment, each in lower case. -/
def aliases : ServiceEnvironment → List String
  | sandbox => ["sandbox", "test", "uat"]
  | production => ["production", "prod", "live"]

/-- Reads a name in any case and with blanks around it. -/
def read (text : String) : Except SettingError ServiceEnvironment :=
  let name := Text.lower (Text.trim text)
  match [sandbox, production].find? fun environment ↦ name ∈ environment.aliases with
  | some environment => .ok environment
  | none => .error (.invalid s!"environment must be sandbox or production, got {name}")

/-- The environment that a variable names; the sandbox when it is unset. -/
def ofVariable (vars : Variables) (name : String) : Except SettingError ServiceEnvironment :=
  vars.readOr name sandbox fun text ↦ (read text).toOption

end ServiceEnvironment

/-- The address of a service: the given one, or that of the environment, without slashes at its
end. -/
def serviceUrl (given : Option String) (sandbox production : String)
    (environment : ServiceEnvironment) : String :=
  let url := given.getD (if environment = .sandbox then sandbox else production)
  String.ofList (url.toList.reverse.dropWhile (· = '/')).reverse

end MobileMoney
