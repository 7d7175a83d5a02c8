/-!
# Blank characters and trimming

`isBlank` is the property White_Space.  `trim` removes blanks from both ends of a text and nothing
from its inside.
-/

namespace MobileMoney.Text

/-- The characters with the property White_Space. -/
def isBlank (c : Char) : Bool :=
  let n := c.toNat
  (9 ≤ n && n ≤ 13) || n == 32 || n == 0x85 || n == 0xA0 || n == 0x1680 ||
    (0x2000 ≤ n && n ≤ 0x200A) || n == 0x2028 || n == 0x2029 || n == 0x202F || n == 0x205F ||
    n == 0x3000

def trimStart (cs : List Char) : List Char :=
  cs.dropWhile isBlank

def trimEnd (cs : List Char) : List Char :=
  (cs.reverse.dropWhile isBlank).reverse

/-- The text without the blanks at its ends. -/
def trim (s : String) : String :=
  String.ofList (trimEnd (trimStart s.toList))

/-- A text with no character but blanks. -/
def isBlankText (s : String) : Bool :=
  s.toList.all isBlank

/-- The text unless it is blank. -/
def nonBlank? (s : String) : Option String :=
  if isBlankText s then none else some s

/-- At most the given number of characters of the trimmed text. -/
def truncate (limit : Nat) (s : String) : String :=
  String.ofList ((trim s).toList.take limit)

end MobileMoney.Text
