import MobileMoney.Json.Writer
import MobileMoney.Record.Reconciliation
import MobileMoney.Settings.EnvFile

/-!
# The command

Reconciles a file of payments with a file of invoices and writes the report.  Settings come from the
environment and from a file of variables, and they are checked before anything is read.  A total
that overflows aborts the run.
-/

namespace MobileMoney.Command

def usage : String := "usage: mobile-money-reconcile <payments.json> <invoices.json>"

/-- The variables, the file of variables, the arguments and the contents of the files that can be
read. -/
structure Invocation where
  environment : Variables
  envFile : Option ByteArray
  arguments : List String
  file? : String → Option ByteArray

/-- A failure with its causes, the nearest first. -/
structure Failure where
  message : String
  causes : List String
deriving DecidableEq

def Failure.ofSetting (message : String) (error : SettingError) : Failure :=
  ⟨message, [error.message]⟩

def settings (invocation : Invocation) : Except Failure Settings := do
  let vars :=
    match invocation.envFile with
    | some bytes => EnvFile.loadBytes invocation.environment bytes
    | none => invocation.environment
  let settings ← (Settings.read vars).mapError (.ofSetting "failed to load configuration")
  settings.check.mapError (.ofSetting "invalid configuration")
  return settings

def readText (invocation : Invocation) (path : String) : Except Failure String :=
  match (invocation.file? path).bind String.fromUTF8? with
  | some text => .ok text
  | none => .error ⟨s!"failed to read {path}", []⟩

/-- The records in a file. -/
def readRecords (invocation : Invocation) (path : String) (read : Json → Option α) :
    Except Failure (List α) := do
  let text ← readText invocation path
  match ((Json.parse? text.toList).bind Json.items?).bind (·.mapM read) with
  | some records => return records
  | none => throw ⟨s!"failed to parse {path}", []⟩

/-- The report that is asked for, if its totals do not overflow. -/
def report? (invocation : Invocation) : Except Failure (Option Reconciliation.Report) := do
  let settings ← settings invocation
  match invocation.arguments with
  | [payments, invoices] =>
    let payments ← readRecords invocation payments PaymentRecord.ofJson?
    let invoices ← readRecords invocation invoices InvoiceRecord.ofJson?
    return Reconciliation.reconcile? settings.reconciliation payments invoices
  | _ => throw ⟨usage, []⟩

/-- What is written to the standard output; none if the run is aborted. -/
def run (invocation : Invocation) : Except Failure (Option String) := do
  return (← report? invocation).map fun report ↦ report.toJson.pretty ++ "\n"

end MobileMoney.Command
