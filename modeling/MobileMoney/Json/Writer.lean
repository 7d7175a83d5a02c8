import MobileMoney.Json.Basic

/-!
# Writing JSON

`compact` has no blanks; `pretty` puts every item and member on a line of its own, two spaces deeper
than what it stands in.  A text is written as it is, but for quotation marks, backslashes and
control characters.
-/

namespace MobileMoney.Json

open Decimal

def hexDigit (n : Nat) : Char :=
  if n < 10 then Char.ofNat ('0'.toNat + n) else Char.ofNat ('a'.toNat + (n - 10))

def escapeChar (c : Char) : List Char :=
  match c with
  | '"' => ['\\', '"']
  | '\\' => ['\\', '\\']
  | '\x08' => ['\\', 'b']
  | '\t' => ['\\', 't']
  | '\n' => ['\\', 'n']
  | '\x0c' => ['\\', 'f']
  | '\x0d' => ['\\', 'r']
  | c =>
    if c.toNat < 0x20 then ['\\', 'u', '0', '0', hexDigit (c.toNat / 16), hexDigit (c.toNat % 16)]
    else [c]

def writeText (s : String) : List Char :=
  '"' :: (s.toList.flatMap escapeChar ++ ['"'])

mutual

def writeCompact : Json → List Char
  | .null => ['n', 'u', 'l', 'l']
  | .bool true => ['t', 'r', 'u', 'e']
  | .bool false => ['f', 'a', 'l', 's', 'e']
  | .number value => value.write
  | .text value => writeText value
  | .array items => '[' :: (writeItems items ++ [']'])
  | .object members => '\x7b' :: (writeMembers members ++ ['\x7d'])
  | .unreadable => ['n', 'u', 'l', 'l']

def writeItems : List Json → List Char
  | [] => []
  | [item] => item.writeCompact
  | item :: rest => item.writeCompact ++ ',' :: writeItems rest

def writeMembers : List (String × Json) → List Char
  | [] => []
  | [(name, value)] => writeText name ++ ':' :: value.writeCompact
  | (name, value) :: rest =>
    writeText name ++ ':' :: (value.writeCompact ++ ',' :: writeMembers rest)

end

def compact (document : Json) : String :=
  String.ofList document.writeCompact

/-- A line end with the blanks before the first character of the next line. -/
def newLine (level : Nat) : List Char :=
  '\n' :: List.replicate (2 * level) ' '

mutual

def writePretty (level : Nat) : Json → List Char
  | .array [] => ['[', ']']
  | .array items => '[' :: (writePrettyItems (level + 1) items ++ newLine level ++ [']'])
  | .object [] => ['\x7b', '\x7d']
  | .object members =>
    '\x7b' :: (writePrettyMembers (level + 1) members ++ newLine level ++ ['\x7d'])
  | .null => writeCompact .null
  | .bool value => writeCompact (.bool value)
  | .number value => value.write
  | .text value => writeText value
  | .unreadable => writeCompact .unreadable

def writePrettyItems (level : Nat) : List Json → List Char
  | [] => []
  | [item] => newLine level ++ item.writePretty level
  | item :: rest => newLine level ++ (item.writePretty level ++ ',' :: writePrettyItems level rest)

def writePrettyMembers (level : Nat) : List (String × Json) → List Char
  | [] => []
  | [(name, value)] => newLine level ++ (writeText name ++ ':' :: ' ' :: value.writePretty level)
  | (name, value) :: rest =>
    newLine level ++
      (writeText name ++ ':' :: ' ' ::
        (value.writePretty level ++ ',' :: writePrettyMembers level rest))

end

def pretty (document : Json) : String :=
  String.ofList (document.writePretty 0)

end MobileMoney.Json
