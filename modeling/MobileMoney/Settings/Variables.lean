import MobileMoney.Decimal.Digits
import MobileMoney.Text.Blank

/-!
# Variables

Settings are read from named variables.  The variables are a block of entries `key=value`, and a
name stands for the first entry that begins with it and an equals sign.  A variable that is blank
counts as unset where a text is asked for; a number must be written plainly and stay below a limit.
-/

namespace MobileMoney

inductive SettingError where
  | missing (name : String)
  | invalid (value : String)
  | refused (reason : String)
deriving DecidableEq

namespace SettingError

def message : SettingError → String
  | missing name => s!"Missing environment variable: {name}"
  | invalid value => s!"Invalid value for configuration: {value}"
  | refused reason => s!"Validation failed: {reason}"

end SettingError

abbrev Variables := List (String × String)

namespace Variables

/-- What follows the name and an equals sign in an entry; a key may hold equals signs of its own. -/
def entryValue? (name : String) (entry : String × String) : Option String :=
  ((name.toList ++ ['=']).isPrefixOf? (entry.1.toList ++ '=' :: entry.2.toList)).map String.ofList

/-- The value of a name; the empty name has none. -/
def value? (vars : Variables) (name : String) : Option String :=
  if name.isEmpty then none else vars.findSome? (entryValue? name)

/-- A text that may be unset. -/
def optional? (vars : Variables) (name : String) : Option String :=
  (vars.value? name).bind Text.nonBlank?

def required (vars : Variables) (name : String) : Except SettingError String :=
  match vars.optional? name with
  | some value => .ok value
  | none => .error (.missing name)

/-- A value that has a default and may not be written in an unknown form. -/
def readOr (vars : Variables) (name : String) (default : α) (read : String → Option α) :
    Except SettingError α :=
  match vars.value? name with
  | none => .ok default
  | some text =>
    match read text with
    | some value => .ok value
    | none => .error (.invalid name)

/-- A number below `limit`. -/
def number (vars : Variables) (name : String) (limit default : Nat) :
    Except SettingError Nat :=
  vars.readOr name default (Decimal.readBelow? limit)

end Variables

end MobileMoney
