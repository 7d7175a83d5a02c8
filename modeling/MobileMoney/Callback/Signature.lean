import MobileMoney.Digest.Hmac
import MobileMoney.Payment.Error

/-!
# Callback signatures

A callback is signed with the HMAC-SHA-256 of its bytes, in hexadecimal, bare or after `sha256=`.
Without a secret every callback is accepted; with one, a signature is required.
-/

namespace MobileMoney.Signature

open Text

def label : String := "sha256="

def sign (payload : ByteArray) (secret : String) : String :=
  label ++ Digest.hmacHex payload secret

/-- Compares all bytes of two byte strings of one length, whatever the first difference. -/
def sameBytes (a b : List UInt8) : Bool :=
  a.length == b.length && (List.zipWith (· ^^^ ·) a b).foldl (· ||| ·) 0 == 0

def withoutLabel (signature : List Char) : List Char :=
  if label.toList.isPrefixOf signature then signature.drop label.toList.length else signature

/-- The digest that a signature claims, in lower case. -/
def claimedDigest (signature : String) : String :=
  String.ofList ((withoutLabel (trim signature).toList).map Char.toLower)

/-- The trimmed text, unless it is absent or blank. -/
def present? (text : Option String) : Option String :=
  (text.bind nonBlank?).map trim

/-- Whether a signature authenticates a payload, or no secret is set. -/
def verify (payload : ByteArray) (signature secret : Option String) : Bool :=
  match present? secret with
  | none => true
  | some secret =>
    match present? signature with
    | none => false
    | some signature =>
      sameBytes (Digest.hmacHex payload secret).toUTF8.toList
        (claimedDigest signature).toUTF8.toList

/-- The same check, with the reason for a refusal. -/
def require (provider : Provider) (payload : ByteArray) (signature secret : Option String) :
    Except PaymentError Unit :=
  if (present? secret).isNone then .ok ()
  else if (present? signature).isNone then .error (.callback provider "missing callback signature")
  else if verify payload signature secret then .ok ()
  else .error (.callback provider "invalid callback signature")

end MobileMoney.Signature
