import MobileMoney.Markup.Escape
import MobileMoney.Text.Blank

/-!
# Elements of flat documents

`extract?` is the text between the first opening of a tag and the first closing of it after that,
trimmed and unescaped.  `Document.render` writes a root with one level of fields.
-/

namespace MobileMoney.Markup

open Text

def dropExact? : List Char → List Char → Option (List Char)
  | [], cs => some cs
  | p :: ps, c :: cs => if p = c then dropExact? ps cs else none
  | _ :: _, [] => none

/-- What follows `<tag>` or `<tag …>` at the beginning of a text. -/
def openingAt? (tag cs : List Char) : Option (List Char) :=
  match dropExact? ('<' :: tag) cs with
  | some ('>' :: rest) => some rest
  | some (c :: rest) =>
    if isBlank c then
      match rest.dropWhile (· ≠ '>') with
      | _ :: rest => some rest
      | [] => none
    else none
  | _ => none

/-- What follows the first opening of a tag. -/
def afterOpening? (tag : List Char) : List Char → Option (List Char)
  | [] => none
  | c :: rest =>
    match openingAt? tag (c :: rest) with
    | some inner => some inner
    | none => afterOpening? tag rest

/-- Whether a text begins with `</tag>`, with blanks allowed before the end. -/
def closesAt (tag cs : List Char) : Bool :=
  match dropExact? ('<' :: '/' :: tag) cs with
  | some rest => (rest.dropWhile isBlank).head? == some '>'
  | none => false

/-- The text up to the first closing of a tag. -/
def untilClosing? (tag : List Char) : List Char → Option (List Char)
  | [] => none
  | c :: rest =>
    if closesAt tag (c :: rest) then some []
    else (untilClosing? tag rest).map (c :: ·)

def innerText? (tag cs : List Char) : Option (List Char) :=
  (afterOpening? tag cs).bind (untilClosing? tag)

/-- The trimmed and unescaped text of the first element of a tag, unless it is empty. -/
def extract? (document tag : String) : Option String := do
  let inner ← innerText? tag.toList document.toList
  let trimmed := trimEnd (trimStart inner)
  if trimmed.isEmpty then none else some (String.ofList (unescapeChars trimmed))

structure Document where
  root : String
  fields : List (String × String)

namespace Document

def declaration : String := "<?xml version=\"1.0\" encoding=\"UTF-8\"?>"

def renderOpening (tag : List Char) : List Char :=
  '<' :: (tag ++ ['>'])

def renderClosing (tag : List Char) : List Char :=
  '<' :: '/' :: (tag ++ ['>'])

def renderField (field : String × String) : List Char :=
  renderOpening field.1.toList ++ escapeChars field.2.toList ++ renderClosing field.1.toList

def renderChars (document : Document) : List Char :=
  declaration.toList ++ renderOpening document.root.toList ++
    document.fields.flatMap renderField ++ renderClosing document.root.toList

def render (document : Document) : String :=
  String.ofList document.renderChars

end Document

end MobileMoney.Markup
