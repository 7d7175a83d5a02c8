import MobileMoney.Json.Slot
import MobileMoney.Money.Basic
import MobileMoney.Payment.Status
import MobileMoney.Provider
import MobileMoney.Time.Rfc3339

/-!
# Records

How the parts that several records share are written as documents and read back.
-/

namespace MobileMoney

namespace Json

def optionalText : Option String → Json :=
  optional text

/-- A constant that is read by its name. -/
def named? (ofName? : String → Option α) (document : Json) : Option α :=
  document.constant?.bind ofName?

end Json

namespace Provider

def toJson (provider : Provider) : Json :=
  .text provider.code

def ofJson? : Json → Option Provider :=
  Json.named? ofCode?

end Provider

namespace PaymentStatus

def toJson (status : PaymentStatus) : Json :=
  .text status.code

def ofJson? : Json → Option PaymentStatus :=
  Json.named? ofCode?

end PaymentStatus

namespace Money

def toJson (money : Money) : Json :=
  .object [("amount_minor_units", .nat money.minor), ("currency", .text money.currency.code)]

def ofJson? (record : Json) : Option Money := do
  match ← record.slots? ["amount_minor_units", "currency"] with
  | [amount, currency] =>
    (ofMinor (← amount.required? Json.nat?) (← currency.required? Json.text?)).toOption
  | _ => none

end Money

namespace Instant

def toJson (t : Instant) : Json :=
  .text (String.ofList t.write)

def ofJson? (document : Json) : Option Instant :=
  document.text?.bind read?

end Instant

namespace Date

def toJson (date : Date) : Json :=
  .text (String.ofList date.write)

def ofJson? (document : Json) : Option Date :=
  document.text?.bind read?

end Date

end MobileMoney
