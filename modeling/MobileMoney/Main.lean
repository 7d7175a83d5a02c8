import MobileMoney.Command

/-!
# The program

Collects the variables and the files that a run may ask for, and prints what it gives.
-/

namespace MobileMoney.Program

def readFile? (path : String) : IO (Option ByteArray) := do
  try
    return some (← IO.FS.readBinFile path)
  catch _ =>
    return none

/-- The paths of the file of variables here and in each directory above. -/
def envFilePaths : IO (List String) := do
  let directory := toString (← IO.currentDir)
  let depth := directory.toList.count '/'
  return (List.range (depth + 1)).map fun level ↦
    String.join (List.replicate level "../") ++ ".env"

def firstFile? : List String → IO (Option ByteArray)
  | [] => return none
  | path :: rest => do
    match ← readFile? path with
    | some bytes => return some bytes
    | none => firstFile? rest

def settingNames : List String := [
  "LOG_LEVEL", "LOG_FORMAT", "PAYMENT_TIMEOUT_SECONDS", "PAYMENT_RETRY_MAX_ATTEMPTS",
  "PAYMENT_RETRY_BASE_DELAY_MS", "PAYMENT_RETRY_MAX_DELAY_MS", "TOKEN_SAFETY_MARGIN_SECONDS",
  "RECONCILIATION_TOLERANCE_MINOR_UNITS", "RECONCILIATION_MATCH_OUTSIDE_TOLERANCE"]

def variablesNamed (names : List String) : IO Variables :=
  names.filterMapM fun name ↦ do
    return (← IO.getEnv name).map fun value ↦ (name, value)

def invocation (arguments : List String) : IO Command.Invocation := do
  let envFile ← firstFile? (← envFilePaths)
  let names := settingNames ++ (envFile.map EnvFile.fileNames).getD []
  let files ← arguments.mapM fun path ↦ return (path, ← readFile? path)
  return {
    environment := ← variablesNamed names
    envFile
    arguments
    file? := fun path ↦ (files.lookup path).join }

def report (failure : Command.Failure) : IO Unit := do
  IO.eprintln s!"Error: {failure.message}"
  if !failure.causes.isEmpty then
    IO.eprintln "\nCaused by:"
    failure.causes.forM fun cause ↦ IO.eprintln s!"    {cause}"

end MobileMoney.Program

def main (arguments : List String) : IO UInt32 := do
  match MobileMoney.Command.run (← MobileMoney.Program.invocation arguments) with
  | .ok (some output) =>
    IO.print output
    return 0
  | .ok none =>
    IO.eprintln "attempt to add with overflow"
    return 101
  | .error failure =>
    MobileMoney.Program.report failure
    return 1
