import MobileMoney.Text.Blank
import MobileMoney.Text.CaseMap

/-!
# Currencies

A currency is a code of three capital letters; every text that is one after trimming and
upper-casing names it.
-/

namespace MobileMoney

/-- Three letters from A to Z. -/
def IsCurrencyCode (code : String) : Prop :=
  code.toList.length = 3 ∧ code.toList.all Char.isUpper = true

instance (code : String) : Decidable (IsCurrencyCode code) :=
  inferInstanceAs (Decidable (_ ∧ _))

structure Currency where
  code : String
  isCode : IsCurrencyCode code
deriving DecidableEq

namespace Currency

def normalize (text : String) : String :=
  Text.upper (Text.trim text)

def ofText? (text : String) : Option Currency :=
  if h : IsCurrencyCode (normalize text) then some ⟨normalize text, h⟩ else none

/-- Currencies without a minor unit. -/
def withoutMinorUnit : List String := ["UGX", "RWF", "BIF", "XAF", "XOF"]

/-- The number of decimal places of the minor unit. -/
def minorDigits (code : String) : Nat :=
  if code ∈ withoutMinorUnit then 0 else 2

/-- How many minor units make one major unit. -/
def factor (code : String) : Nat :=
  Nat.pow 10 (minorDigits code)

end Currency

end MobileMoney
