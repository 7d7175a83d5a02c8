/-!
# Entities

`escape` writes the five characters that have a meaning in markup as entities, and `unescape` puts
the characters back: the ampersand last, so that what it gives is not read again.
-/

namespace MobileMoney.Markup

def entityOf (c : Char) : List Char :=
  match c with
  | '&' => ['&', 'a', 'm', 'p', ';']
  | '<' => ['&', 'l', 't', ';']
  | '>' => ['&', 'g', 't', ';']
  | '"' => ['&', 'q', 'u', 'o', 't', ';']
  | '\'' => ['&', 'a', 'p', 'o', 's', ';']
  | c => [c]

def escapeChars (cs : List Char) : List Char :=
  cs.flatMap entityOf

/-- Replaces the occurrences of `pattern`, from the left and without overlap, after passing over
`skip` characters. -/
def replaceFrom (pattern replacement : List Char) : Nat → List Char → List Char
  | _, [] => []
  | skip + 1, _ :: rest => replaceFrom pattern replacement skip rest
  | 0, c :: rest =>
    if pattern.isPrefixOf (c :: rest) then
      replacement ++ replaceFrom pattern replacement (pattern.length - 1) rest
    else c :: replaceFrom pattern replacement 0 rest

/-- Replaces every entity of one character. -/
def restore (c : Char) (cs : List Char) : List Char :=
  replaceFrom (entityOf c) [c] 0 cs

def unescapeChars (cs : List Char) : List Char :=
  restore '&' (restore '\'' (restore '"' (restore '>' (restore '<' cs))))

def escape (s : String) : String :=
  String.ofList (escapeChars s.toList)

def unescape (s : String) : String :=
  String.ofList (unescapeChars s.toList)

end MobileMoney.Markup
