import TwinView.Text.Quoted

/-!
Descriptions of values for logs and messages: a word, a quoted text, a name with positional parts, or a
name with named fields. Every description in this library goes through `Outline.render`.
-/

namespace TwinView.Text

inductive Outline where
  | word (text : String)
  | quoted (text : String)
  | tuple (name : String) (parts : List Outline)
  | record (name : String) (fields : List (String × Outline))

namespace Outline

mutual

def render : Outline → String
  | .word text => text
  | .quoted text => quote text
  | .tuple name parts => name ++ "(" ++ ", ".intercalate (renderParts parts) ++ ")"
  | .record name fields =>
      name ++ " \x7b " ++ ", ".intercalate (renderFields fields) ++ " \x7d"

def renderParts : List Outline → List String
  | [] => []
  | part :: rest => render part :: renderParts rest

def renderFields : List (String × Outline) → List String
  | [] => []
  | (label, value) :: rest => (label ++ ": " ++ render value) :: renderFields rest

end

def ofOption : Option Outline → Outline
  | none => .word "None"
  | some value => .tuple "Some" [value]

end Outline

end TwinView.Text
