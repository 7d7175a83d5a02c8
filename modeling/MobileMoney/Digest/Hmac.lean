import MobileMoney.Digest.Hex
import MobileMoney.Digest.Sha256

/-!
# HMAC-SHA-256

The keyed digest of a message.
-/

namespace MobileMoney.Digest

def blockSize : Nat := 64

/-- A key of at most one block, filled up with zeros; a longer key is replaced by its digest. -/
def blockKey (key : List UInt8) : List UInt8 :=
  let short := if blockSize < key.length then sha256 key else key
  short ++ List.replicate (blockSize - short.length) 0

def hmacSha256 (key message : List UInt8) : List UInt8 :=
  let inner := (blockKey key).map (· ^^^ 0x36)
  let outer := (blockKey key).map (· ^^^ 0x5c)
  sha256 (outer ++ sha256 (inner ++ message))

/-- The keyed digest of a message in hexadecimal. -/
def hmacHex (message : ByteArray) (secret : String) : String :=
  String.ofList (Hex.encode (hmacSha256 secret.toUTF8.toList message.toList))

end MobileMoney.Digest
