import MobileMoney.Text.CaseMap
import MobileMoney.Text.PrintableTable

/-!
# Quoted texts

A text between double quotes on one line: quotes and backslashes get a backslash, and characters
that would not be seen are written by name or by number.
-/

namespace MobileMoney.Text

def isPrintable (c : Char) : Bool :=
  !inRanges unprintableRanges c && !inRanges joiningRanges c

def quoteChar (c : Char) : List Char :=
  if c = '\x00' then ['\\', '0']
  else if c = '\t' then ['\\', 't']
  else if c = '\n' then ['\\', 'n']
  else if c = '\x0d' then ['\\', 'r']
  else if c = '"' ∨ c = '\\' then ['\\', c]
  else if isPrintable c then [c]
  else '\\' :: 'u' :: '\x7b' :: (Nat.toDigits 16 c.toNat ++ ['\x7d'])

def quote (s : String) : String :=
  String.ofList ('"' :: (s.toList.flatMap quoteChar ++ ['"']))

def quoteOptional : Option String → String
  | some s => String.ofList ("Some(".toList ++ (quote s).toList ++ [')'])
  | none => "None"

end MobileMoney.Text
