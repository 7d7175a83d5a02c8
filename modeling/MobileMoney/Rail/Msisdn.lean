import MobileMoney.Payment.Error

/-!
# Subscriber numbers

A phone number is brought into the form of a calling code followed by nine digits.  Only digits
count: a leading zero stands for the calling code, and a number without the code gets it.
-/

namespace MobileMoney.Msisdn

/-- The length of a number with its calling code. -/
def length : Nat := 12

def digitsOf (phone : String) : List Char :=
  phone.toList.filter Char.isDigit

/-- The digits with the calling code in front. -/
def withCallingCode (code digits : List Char) : List Char :=
  match digits with
  | '0' :: rest => code ++ rest
  | digits => if code.isPrefixOf digits then digits else code ++ digits

def normalize (provider : Provider) (phone callingCode : String) : Except PaymentError String :=
  let digits := digitsOf phone
  if digits.isEmpty then .error (.invalid provider "phone number is required" "phone")
  else
    let number := String.ofList (withCallingCode callingCode.toList digits)
    if number.utf8ByteSize = length then .ok number
    else .error (.invalid provider "phone number must normalize to 12 digits" "phone")

/-- The number without the calling code. -/
def withoutCallingCode (number callingCode : String) : String :=
  let code := callingCode.toList
  if code.isPrefixOf number.toList then String.ofList (number.toList.drop code.length) else number

end MobileMoney.Msisdn
