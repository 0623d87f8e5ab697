import TwinView.Decimal.Binary

/-!
Values of a TOML document. Tables keep their keys in the order in which a reader meets them. Date-times
carry nothing here: that one was written is all that the settings depend on.
-/

namespace TwinView.Toml

inductive Value where
  | string (text : String)
  | integer (value : Int)
  | float (value : Decimal.Binary)
  | boolean (value : Bool)
  | dateTime
  | array (items : List Value)
  | table (entries : List (String × Value))

/-- What reads documents: the entries at the top of one, in their order, or nothing if the text is none. -/
abbrev Reader := List Char → Option (List (String × Value))

structure KeyPath where
  parents : List String
  last : String
  deriving DecidableEq

namespace KeyPath

def ofList : List String → Option KeyPath
  | [] => none
  | [last] => some ⟨[], last⟩
  | parent :: rest => (ofList rest).map fun path => ⟨parent :: path.parents, path.last⟩

def toList (path : KeyPath) : List String :=
  path.parents ++ [path.last]

end KeyPath

end TwinView.Toml
