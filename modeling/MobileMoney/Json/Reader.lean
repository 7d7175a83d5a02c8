import MobileMoney.Json.Token

/-!
# Reading JSON

A `Builder` takes tokens one by one and keeps the arrays and objects that are still open.
`parse?` keeps repeated members and unreadable leaves; `document?` is the strict reading, which
refuses unreadable leaves and deep nesting and keeps the last of repeated members.
-/

namespace MobileMoney.Json

/-- An open array with its items, or an open object with its members and the name of the one that is
being read; items and members in reverse.  An object with an unreadable name is unreadable. -/
inductive Frame where
  | array (items : List Json)
  | object (members : List (String × Json)) (readable : Bool) (name : Option String)

inductive Stage where
  | value
  | itemOrClose
  | nameOrClose
  | name
  | colon
  | separator
  | done (document : Json)

structure Builder where
  frames : List Frame
  stage : Stage

namespace Builder

def start : Builder := ⟨[], .value⟩

/-- Adds a finished value to the innermost open frame. -/
def finish (frames : List Frame) (value : Json) : Builder :=
  match frames with
  | [] => ⟨[], .done value⟩
  | .array items :: outer => ⟨.array (value :: items) :: outer, .separator⟩
  | .object members readable (some name) :: outer =>
    ⟨.object ((name, value) :: members) readable (some name) :: outer, .separator⟩
  | .object members _ none :: outer => ⟨.object members false none :: outer, .separator⟩

def value? (frames : List Frame) : Token → Option Builder
  | .openArray => some ⟨.array [] :: frames, .itemOrClose⟩
  | .openObject => some ⟨.object [] true none :: frames, .nameOrClose⟩
  | .text (some value) => some (finish frames (.text value))
  | .text none => some (finish frames .unreadable)
  | .leaf value => some (finish frames value)
  | _ => none

def close? (frames : List Frame) : Token → Option Builder
  | .closeArray =>
    match frames with
    | .array items :: outer => some (finish outer (.array items.reverse))
    | _ => none
  | .closeObject =>
    match frames with
    | .object members readable _ :: outer =>
      some (finish outer (if readable then .object members.reverse else .unreadable))
    | _ => none
  | _ => none

def name? (frames : List Frame) : Token → Option Builder
  | .text name =>
    match frames with
    | .object members readable _ :: outer => some ⟨.object members readable name :: outer, .colon⟩
    | _ => none
  | _ => none

def step? (builder : Builder) (token : Token) : Option Builder :=
  match builder.stage with
  | .value => value? builder.frames token
  | .itemOrClose =>
    match token with
    | .closeArray => close? builder.frames token
    | _ => value? builder.frames token
  | .nameOrClose =>
    match token with
    | .closeObject => close? builder.frames token
    | _ => name? builder.frames token
  | .name => name? builder.frames token
  | .colon =>
    match token with
    | .colon => some ⟨builder.frames, .value⟩
    | _ => none
  | .separator =>
    match token with
    | .comma =>
      match builder.frames with
      | .array _ :: _ => some ⟨builder.frames, .value⟩
      | .object .. :: _ => some ⟨builder.frames, .name⟩
      | [] => none
    | _ => close? builder.frames token
  | .done _ => none

end Builder

/-- The document of a text, with repeated members and unreadable leaves. -/
def parse? (cs : List Char) : Option Json := do
  let builder ← (← tokens? cs).foldlM Builder.step? .start
  match builder.stage with
  | .done document => some document
  | _ => none

/-- Arrays and objects may be nested this deep. -/
def maxDepth : Nat := 127

/-- A part of a document that is read in full and stands below `above` open frames. -/
def strict? (above : Nat) (part : Json) : Option Json :=
  if part.isReadable && part.depth + above ≤ maxDepth then some part.settled else none

def document? (s : String) : Option Json :=
  (parse? s.toList).bind (strict? 0)

def documentOfBytes? (bytes : ByteArray) : Option Json :=
  (String.fromUTF8? bytes).bind document?

end MobileMoney.Json
