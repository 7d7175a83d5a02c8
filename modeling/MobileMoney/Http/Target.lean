/-!
# Request targets

How a URL is cut into what a server sees.  Control characters and blanks at the ends and tabs and
line ends anywhere are ignored; the path ends at the first `?` or `#`, a backslash separates like a
slash, `.` and `..` are resolved, and characters that a path may not hold are percent-encoded.
-/

namespace MobileMoney.Http

def hexUpper (n : Nat) : Char :=
  if n < 10 then Char.ofNat ('0'.toNat + n) else Char.ofNat ('A'.toNat + (n - 10))

def percentEncode (c : Char) : List Char :=
  (String.singleton c).toUTF8.toList.flatMap fun b ↦
    ['%', hexUpper (b.toNat / 16), hexUpper (b.toNat % 16)]

def isControlOrSpace (c : Char) : Bool :=
  c.toNat ≤ 0x20

def isTabOrLineEnd (c : Char) : Bool :=
  c = '\t' || c = '\n' || c = '\x0d'

/-- Characters that stand for themselves in no part of a URL. -/
def isAlwaysEncoded (c : Char) : Bool :=
  c.toNat ≤ 0x20 || 0x7F ≤ c.toNat || c = '"' || c = '<' || c = '>'

def encodePathChar (c : Char) : List Char :=
  if isAlwaysEncoded c || c.toNat = 0x60 || c = '\x7b' || c = '\x7d' then percentEncode c else [c]

def encodeQueryChar (c : Char) : List Char :=
  if isAlwaysEncoded c || c = '\'' then percentEncode c else [c]

def isSlash (c : Char) : Bool :=
  c = '/' || c = '\\'

/-- A text without the ignored characters. -/
def cleaned (url : String) : List Char :=
  let inner := ((url.toList.dropWhile isControlOrSpace).reverse.dropWhile isControlOrSpace).reverse
  inner.filter fun c ↦ !isTabOrLineEnd c

/-- The parts of a text between slashes. -/
def splitSegments : List Char → List (List Char)
  | [] => [[]]
  | c :: rest =>
    if isSlash c then [] :: splitSegments rest
    else match splitSegments rest with
      | segment :: more => (c :: segment) :: more
      | [] => [[c]]

/-- A segment in lower case with the encoded dots written as dots. -/
def plainDots : List Char → List Char
  | '%' :: '2' :: c :: rest =>
    if c = 'e' ∨ c = 'E' then '.' :: plainDots rest else '%' :: '2' :: c :: plainDots rest
  | c :: rest => c :: plainDots rest
  | [] => []

def isSingleDot (segment : List Char) : Bool :=
  plainDots segment == ['.']

def isDoubleDot (segment : List Char) : Bool :=
  plainDots segment == ['.', '.']

/-- Resolves dot segments; `kept` holds the segments so far in reverse. -/
def resolveDots (kept : List (List Char)) : List (List Char) → List (List Char)
  | [] => kept.reverse
  | [segment] =>
    if isDoubleDot segment then (([] : List Char) :: kept.drop 1).reverse
    else if isSingleDot segment then ([] :: kept).reverse
    else (segment :: kept).reverse
  | segment :: rest =>
    if isDoubleDot segment then resolveDots (kept.drop 1) rest
    else if isSingleDot segment then resolveDots kept rest
    else resolveDots (segment :: kept) rest

structure Target where
  segments : List (List Char)
  query : Option (List Char)

namespace Target

/-- The target that follows the host of a URL. -/
def ofRest (rest : List Char) : Target :=
  let beforeFragment := rest.takeWhile (· ≠ '#')
  let path := beforeFragment.takeWhile (· ≠ '?')
  let query := beforeFragment.dropWhile (· ≠ '?')
  let segments := splitSegments (if path.head?.any isSlash then path.drop 1 else path)
  ⟨(resolveDots [] segments).map (·.flatMap encodePathChar),
    if query.isEmpty then none else some ((query.drop 1).flatMap encodeQueryChar)⟩

def path (target : Target) : List Char :=
  target.segments.flatMap ('/' :: ·)

def write (target : Target) : String :=
  String.ofList (target.path ++
    match target.query with
    | some query => '?' :: query
    | none => [])

/-- The rest of a text after `http:` or `https:` in any case. -/
def afterScheme? (cs : List Char) : Option (List Char) :=
  let scheme := (cs.takeWhile (· ≠ ':')).map Char.toLower
  if scheme = ['h', 't', 't', 'p'] ∨ scheme = ['h', 't', 't', 'p', 's'] then
    match cs.dropWhile (· ≠ ':') with
    | _ :: rest => some rest
    | [] => none
  else none

def endsHost (c : Char) : Bool :=
  isSlash c || c = '?' || c = '#'

/-- The target of a URL with a host; hosts are not examined further. -/
def ofUrl? (url : String) : Option Target := do
  let rest := (← afterScheme? (cleaned url)).dropWhile isSlash
  if (rest.takeWhile fun c ↦ !endsHost c).isEmpty then none
  else some (ofRest (rest.dropWhile fun c ↦ !endsHost c))

end Target

end MobileMoney.Http
