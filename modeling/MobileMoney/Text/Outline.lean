import MobileMoney.Text.Quoted

/-!
# Outlines

How a value is shown to developers: its title and some of its fields.  Fields that hold secrets are
left out, and then the outline is open.
-/

namespace MobileMoney

structure Outline where
  title : String
  fields : List (String × String)
  isOpen : Bool

namespace Outline

/-- What stands for a secret. -/
def stars : String := "***"

def renderFields (outline : Outline) : List (List Char) :=
  (outline.fields.map fun (name, value) ↦ name.toList ++ [':', ' '] ++ value.toList) ++
    if outline.isOpen then [['.', '.']] else []

def render (outline : Outline) : String :=
  String.ofList (outline.title.toList ++ [' ', '\x7b', ' '] ++
    [',', ' '].intercalate outline.renderFields ++ [' ', '\x7d'])

/-- Whether a text occurs in another. -/
def occursIn (part : List Char) : List Char → Bool
  | [] => part.isEmpty
  | c :: rest => part.isPrefixOf (c :: rest) || occursIn part rest

/-- Whether a value can be seen in an outline. -/
def shows (outline : Outline) (value : String) : Bool :=
  occursIn value.toList outline.render.toList

end Outline

end MobileMoney
