import MobileMoney.Settings.Variables
import MobileMoney.Text.LetterTable

/-!
# Files of variables

A line `name=value` sets a variable; blank lines and lines that begin with `#` are passed over.  A
value may be quoted, may hold escapes after a backslash, and may refer to other variables as `$name`
or in braces.  The first line that cannot be read ends the file, and a variable that is set already
keeps its value.
-/

namespace MobileMoney.EnvFile

/-- Where in a value a reader is.  A reference outside braces ends at the first character that is no
letter or digit. -/
inductive Mode where
  | text
  | strongQuote
  | escape
  | reference (name : List Char)
  | bracedReference (name : List Char)
  | ended
deriving DecidableEq

/-- What has been read of a value, in reverse; `quoted` holds between double quotes. -/
structure ValueReader where
  written : List Char
  quoted : Bool
  mode : Mode
deriving DecidableEq

namespace ValueReader

def start : ValueReader := ⟨[], false, .text⟩

def put (reader : ValueReader) (c : Char) : ValueReader :=
  { reader with written := c :: reader.written, mode := .text }

def enter (reader : ValueReader) (mode : Mode) : ValueReader :=
  { reader with mode }

/-- Puts in the value of a variable whose name has been read in reverse. -/
def resolve (vars : Variables) (reader : ValueReader) (name : List Char) : ValueReader :=
  let value := (vars.value? (String.ofList name.reverse)).getD ""
  { reader with written := value.toList.reverse ++ reader.written, mode := .text }

def escaped? (c : Char) : Option Char :=
  if c = 'n' then some '\n'
  else if c ∈ ['\\', '\'', '"', '$', ' '] then some c
  else none

def stepText (reader : ValueReader) (c : Char) : ValueReader :=
  if c = '$' then reader.enter (.reference [])
  else if c = '\\' then reader.enter .escape
  else if c = '"' then { reader with quoted := !reader.quoted }
  else if reader.quoted then reader.put c
  else if c = '\'' then reader.enter .strongQuote
  else if c = ' ' ∨ c = '\t' then reader.enter .ended
  else reader.put c

def stepReference (vars : Variables) (reader : ValueReader) (name : List Char) (c : Char) :
    ValueReader :=
  if Text.isLetterOrDigit c then reader.enter (.reference (c :: name))
  else if c = '\x7b' ∧ name = [] then reader.enter (.bracedReference [])
  else
    let resolved := reader.resolve vars name
    if c = '$' then resolved.enter (.reference []) else resolved.put c

/-- After the end of a value there may be blanks and a comment; a comment is left unread. -/
def step? (vars : Variables) (reader : ValueReader) (c : Char) : Option ValueReader :=
  match reader.mode with
  | .text => some (reader.stepText c)
  | .strongQuote =>
    some (if c = '\'' then reader.enter .text else (reader.put c).enter .strongQuote)
  | .escape => (escaped? c).map reader.put
  | .reference name => some (reader.stepReference vars name c)
  | .bracedReference name =>
    some (if c = '\x7d' then reader.resolve vars name
      else reader.enter (.bracedReference (c :: name)))
  | .ended => if c = ' ' ∨ c = '\t' then some reader else none

def run? (vars : Variables) (reader : ValueReader) : List Char → Option ValueReader
  | [] => some reader
  | c :: rest =>
    if reader.mode = .ended ∧ c = '#' then some reader
    else (reader.step? vars c).bind fun next ↦ next.run? vars rest

/-- The value, unless a quote or a brace is still open. -/
def finish? (vars : Variables) (reader : ValueReader) : Option String :=
  if reader.quoted then none
  else
    match reader.mode with
    | .strongQuote => none
    | .bracedReference _ => none
    | .reference name => some (String.ofList (reader.resolve vars name).written.reverse)
    | _ => some (String.ofList reader.written.reverse)

end ValueReader

def readValue? (vars : Variables) (cs : List Char) : Option String :=
  (ValueReader.start.run? vars cs).bind (·.finish? vars)

def startsName (c : Char) : Bool :=
  c.isAlpha || c = '_'

def continuesName (c : Char) : Bool :=
  c.isAlphanum || c = '_' || c = '.'

def isEmptyOrComment (cs : List Char) : Bool :=
  cs.isEmpty || cs.head? == some '#'

/-- The name at the beginning of a text, and what follows it and the blanks after it. -/
def readName? : List Char → Option (String × List Char)
  | [] => none
  | c :: rest =>
    if startsName c then
      some (String.ofList (c :: rest.takeWhile continuesName),
        Text.trimStart (rest.dropWhile continuesName))
    else none

def afterEquals? : List Char → Option (List Char)
  | '=' :: rest => some (Text.trimStart rest)
  | _ => none

/-- The name and the text of the value; the word `export` in front of the name means nothing. -/
def readAssignment? (cs : List Char) : Option (String × List Char) := do
  let (name, rest) ← readName? cs
  match afterEquals? rest with
  | some value => return (name, value)
  | none =>
    if name = "export" then
      let (name, rest) ← readName? rest
      return (name, ← afterEquals? rest)
    else none

inductive Line where
  | nothing
  | assignment (name value : String)
deriving DecidableEq

def readLine? (vars : Variables) (cs : List Char) : Option Line := do
  let cs := Text.trimStart (Text.trimEnd cs)
  if isEmptyOrComment cs then return .nothing
  let (name, value) ← readAssignment? cs
  if isEmptyOrComment value then return .assignment name ""
  return .assignment name (← readValue? vars value)

/-- The variables after reading lines; a line that is no text cannot be read. -/
def load (vars : Variables) : List (Option (List Char)) → Variables
  | [] => vars
  | line :: rest =>
    match line.bind (readLine? vars) with
    | none => vars
    | some .nothing => load vars rest
    | some (.assignment name value) =>
      if (vars.value? name).isSome then load vars rest
      else load (vars ++ [(name, value)]) rest

def lineFeed : UInt8 := 10

/-- Cuts bytes into lines. -/
def splitLines (bytes : List UInt8) : List (List UInt8) :=
  bytes.foldr (fun b lines ↦
    if b = lineFeed then [] :: lines
    else
      match lines with
      | [] => [[b]]
      | line :: rest => (b :: line) :: rest) [[]]

def decodeLine? (line : List UInt8) : Option (List Char) :=
  (String.fromUTF8? ⟨line.toArray⟩).map String.toList

def readLines (bytes : ByteArray) : List (Option (List Char)) :=
  (splitLines bytes.toList).map decodeLine?

/-- The variables after reading a file. -/
def loadBytes (vars : Variables) (bytes : ByteArray) : Variables :=
  load vars (readLines bytes)

/-- The names to which a text may refer. -/
def referencedNames : List Char → List String
  | [] => []
  | '$' :: '\x7b' :: rest =>
    String.ofList (rest.takeWhile (· ≠ '\x7d')) :: referencedNames rest
  | '$' :: rest => String.ofList (rest.takeWhile Text.isLetterOrDigit) :: referencedNames rest
  | _ :: rest => referencedNames rest

/-- The names that a line may set or refer to. -/
def lineNames (line : List Char) : List String :=
  ((readAssignment? (Text.trimStart line)).map Prod.fst).toList ++ referencedNames line

/-- The names whose values decide what a file sets. -/
def fileNames (bytes : ByteArray) : List String :=
  (readLines bytes).flatMap fun line ↦ (line.map lineNames).getD []

end MobileMoney.EnvFile
