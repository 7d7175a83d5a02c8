import MobileMoney.Decimal.Exact
import MobileMoney.Money.Currency
import MobileMoney.Text.Outline

/-!
# Money

An amount is a number of minor units of 64 bits in a currency.  It is built from minor units, from
major units, or from the decimal text of a number of major units, and it is written with as many
decimal places as the currency has.
-/

namespace MobileMoney

inductive MoneyError where
  | invalidCurrency (code : String)
  | invalidAmount (text : String)
  | fractionalMajorUnits (amount : Nat) (currency : String)
deriving DecidableEq

namespace MoneyError

def message : MoneyError → String
  | .invalidCurrency code => s!"invalid currency code: {code}"
  | .invalidAmount text => s!"invalid amount: {text}"
  | .fractionalMajorUnits amount currency =>
    s!"amount {Decimal.write amount} {currency} is not a whole number of major units"

end MoneyError

structure Money where
  minor : Nat
  currency : Currency
  minor_lt : minor < UInt64.size
deriving DecidableEq

namespace Money

def ofMinor (amount : Nat) (currency : String) : Except MoneyError Money :=
  match Currency.ofText? currency with
  | none => .error (.invalidCurrency (Currency.normalize currency))
  | some found =>
    if h : amount < UInt64.size then .ok ⟨amount, found, h⟩
    else .error (.invalidAmount (Decimal.write amount))

def ofMajor (amount : Nat) (currency : String) : Except MoneyError Money :=
  let minor := amount * Currency.factor (Currency.normalize currency)
  if minor < UInt64.size then ofMinor minor currency
  else .error (.invalidAmount (Decimal.write amount))

/-- Reads a number of major units in decimal notation; nothing is rounded. -/
def ofMajorText (amount currency : String) : Except MoneyError Money :=
  let places := Currency.minorDigits (Currency.normalize currency)
  match (Decimal.Exact.read? (Text.trim amount).toList).bind (·.timesPowerOfTen? places) with
  | some minor => ofMinor minor currency
  | none => .error (.invalidAmount amount)

/-- The same within the capacity of a machine; none where the minor units cannot be computed. -/
def ofMajorText? (capacity : Nat) (amount currency : String) : Option (Except MoneyError Money) :=
  let places := Currency.minorDigits (Currency.normalize currency)
  match Decimal.Exact.read? (Text.trim amount).toList with
  | none => some (.error (.invalidAmount amount))
  | some x => (x.timesPowerOfTenWithin? capacity places).map fun
    | some minor => ofMinor minor currency
    | none => .error (.invalidAmount amount)

def isZero (money : Money) : Bool :=
  money.minor = 0

def factor (money : Money) : Nat :=
  Currency.factor money.currency.code

def toMajor (money : Money) : Except MoneyError Nat :=
  if money.minor % money.factor = 0 then .ok (money.minor / money.factor)
  else .error (.fractionalMajorUnits money.minor money.currency.code)

def sameCurrency (a b : Money) : Bool :=
  a.currency = b.currency

/-- The number part of the display form. -/
def writeNumber (money : Money) : List Char :=
  let places := Currency.minorDigits money.currency.code
  if places = 0 then Decimal.digits money.minor
  else
    Decimal.digits (money.minor / money.factor) ++
      '.' :: Decimal.padded places (money.minor % money.factor)

def display (money : Money) : String :=
  String.ofList (money.writeNumber ++ ' ' :: money.currency.code.toList)

def outline (money : Money) : Outline where
  title := "Money"
  fields := [
    ("amount_minor_units", Decimal.write money.minor),
    ("currency", Text.quote money.currency.code)]
  isOpen := false

/-- The same currency with another amount. -/
def withMinor (money : Money) (minor : Nat) (h : minor < UInt64.size) : Money :=
  { money with minor, minor_lt := h }

end Money

end MobileMoney
