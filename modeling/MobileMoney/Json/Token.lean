import MobileMoney.Json.Literal

/-!
# Tokens of a JSON text

A `Lexer` takes a text character by character.  Texts may hold any character from the space on;
an escaped surrogate pair is one character, and half a pair makes the text unreadable.  Words and
numbers end at the first character that cannot belong to one.
-/

namespace MobileMoney.Json

inductive Token where
  | openArray
  | closeArray
  | openObject
  | closeObject
  | comma
  | colon
  | text (value : Option String)
  | leaf (value : Json)

/-- Where in an escape a text is: outside, after the backslash, or among the four hex digits. -/
inductive Escape where
  | outside
  | begun
  | hex (count value : Nat)

/-- A text half read: its characters in reverse, the first half of a surrogate pair if one waits
for the second, and whether it is still readable. -/
structure TextReader where
  chars : List Char
  half : Option Nat
  readable : Bool
  escape : Escape

namespace TextReader

def start : TextReader := ⟨[], none, true, .outside⟩

/-- Adds a character; a surrogate half that was waiting is now alone. -/
def push (reader : TextReader) (c : Char) : TextReader :=
  ⟨c :: reader.chars, none, reader.readable && reader.half.isNone, .outside⟩

def simpleEscape? : Char → Option Char
  | '"' => some '"'
  | '\\' => some '\\'
  | '/' => some '/'
  | 'b' => some '\x08'
  | 'f' => some '\x0c'
  | 'n' => some '\n'
  | 'r' => some '\x0d'
  | 't' => some '\t'
  | _ => none

def hexValue? (c : Char) : Option Nat :=
  if c.isDigit then some (c.toNat - '0'.toNat)
  else if 'a' ≤ c ∧ c ≤ 'f' then some (c.toNat - 'a'.toNat + 10)
  else if 'A' ≤ c ∧ c ≤ 'F' then some (c.toNat - 'A'.toNat + 10)
  else none

def isHighHalf (unit : Nat) : Bool :=
  0xD800 ≤ unit && unit < 0xDC00

def isLowHalf (unit : Nat) : Bool :=
  0xDC00 ≤ unit && unit < 0xE000

/-- Adds a 16-bit unit written as an escape. -/
def pushUnit (reader : TextReader) (unit : Nat) : TextReader :=
  if isHighHalf unit then
    ⟨reader.chars, some unit, reader.readable && reader.half.isNone, .outside⟩
  else if isLowHalf unit then
    match reader.half with
    | some high =>
      let code := 0x10000 + (high - 0xD800) * 0x400 + (unit - 0xDC00)
      ⟨Char.ofNat code :: reader.chars, none, reader.readable, .outside⟩
    | none => ⟨reader.chars, none, false, .outside⟩
  else reader.push (Char.ofNat unit)

/-- Takes a character inside the quotes that does not end the text. -/
def step? (reader : TextReader) (c : Char) : Option TextReader :=
  match reader.escape with
  | .outside =>
    if c = '\\' then some { reader with escape := .begun }
    else if c.toNat < 0x20 then none
    else some (reader.push c)
  | .begun =>
    if c = 'u' then some { reader with escape := .hex 0 0 }
    else (simpleEscape? c).map reader.push
  | .hex count value =>
    (hexValue? c).map fun digit ↦
      if count < 3 then { reader with escape := .hex (count + 1) (16 * value + digit) }
      else reader.pushUnit (16 * value + digit)

/-- Whether a quotation mark at this place ends the text. -/
def mayEnd (reader : TextReader) : Bool :=
  match reader.escape with
  | .outside => true
  | _ => false

def value (reader : TextReader) : Option String :=
  if reader.readable && reader.half.isNone then some (String.ofList reader.chars.reverse) else none

end TextReader

inductive Mode where
  | between
  | word (reversed : List Char)
  | quoted (reader : TextReader)

structure Lexer where
  reversed : List Token
  mode : Mode

namespace Lexer

def start : Lexer := ⟨[], .between⟩

def emit (lexer : Lexer) (token : Token) : Lexer :=
  ⟨token :: lexer.reversed, .between⟩

def isSpace (c : Char) : Bool :=
  c = ' ' || c = '\t' || c = '\n' || c = '\x0d'

/-- The characters of `true`, `false`, `null` and of numbers. -/
def isWordChar (c : Char) : Bool :=
  c.isAlphanum || c = '-' || c = '+' || c = '.'

def wordToken? (word : List Char) : Option Token :=
  if word = ['n', 'u', 'l', 'l'] then some (.leaf .null)
  else if word = ['t', 'r', 'u', 'e'] then some (.leaf (.bool true))
  else if word = ['f', 'a', 'l', 's', 'e'] then some (.leaf (.bool false))
  else (Literal.read? word).map fun literal ↦
    .leaf ((literal.number?.map .number).getD .unreadable)

/-- Ends a word that the text is in the middle of. -/
def flush? (lexer : Lexer) : Option Lexer :=
  match lexer.mode with
  | .word reversed => (wordToken? reversed.reverse).map lexer.emit
  | .between => some lexer
  | .quoted _ => none

/-- Takes a character outside texts and words. -/
def begin? (lexer : Lexer) (c : Char) : Option Lexer :=
  if isSpace c then some lexer
  else if isWordChar c then some { lexer with mode := .word [c] }
  else match c with
    | '"' => some { lexer with mode := .quoted .start }
    | '[' => some (lexer.emit .openArray)
    | ']' => some (lexer.emit .closeArray)
    | '\x7b' => some (lexer.emit .openObject)
    | '\x7d' => some (lexer.emit .closeObject)
    | ',' => some (lexer.emit .comma)
    | ':' => some (lexer.emit .colon)
    | _ => none

def step? (lexer : Lexer) (c : Char) : Option Lexer :=
  match lexer.mode with
  | .between => lexer.begin? c
  | .word reversed =>
    if isWordChar c then some { lexer with mode := .word (c :: reversed) }
    else lexer.flush?.bind (·.begin? c)
  | .quoted reader =>
    if c = '"' && reader.mayEnd then some (lexer.emit (.text reader.value))
    else (reader.step? c).map fun reader ↦ { lexer with mode := .quoted reader }

end Lexer

def tokens? (cs : List Char) : Option (List Token) := do
  let lexer ← cs.foldlM Lexer.step? .start
  let lexer ← lexer.flush?
  return lexer.reversed.reverse

end MobileMoney.Json
