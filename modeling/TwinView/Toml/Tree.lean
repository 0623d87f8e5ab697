import TwinView.Toml.Value

/-!
Tables under construction. A table comes from its own header, from a header that only passes through it, or
from a dotted key; this decides what may still be added. A header opens a table once: it may take over one
that headers passed through, which then counts as written at the place of its own header. A dotted key adds
to the tables that dotted keys made and to no others.
-/

namespace TwinView.Toml

inductive Origin where
  | header
  | passage
  | dotted
  deriving DecidableEq

inductive Node where
  | leaf (value : Value)
  | table (origin : Origin) (entries : List (String × Node))
  /-- The tables of one repeated header, of which there is at least one. -/
  | elements (tables : List (List (String × Node)))

abbrev Entries := List (String × Node)

namespace Entries

def erase (name : String) : Entries → Entries
  | [] => []
  | (label, node) :: rest => if label = name then rest else (label, node) :: erase name rest

/-- Puts the node at the place of the name, which is the end if the name is new. -/
def put (name : String) (node : Node) : Entries → Entries
  | [] => [(name, node)]
  | (label, old) :: rest =>
      if label = name then (name, node) :: rest else (label, old) :: put name node rest

/-- Acts on the table that a path leads to. Tables that are missing on the way are made, a repeated header
stands for its last table, and a value on the way stops. -/
def alter (made : Origin) (enters : Origin → Bool) (act : Origin → Entries → Option Entries) :
    List String → Origin → Entries → Option Entries
  | [], origin, entries => act origin entries
  | name :: path, _, entries =>
      match entries.lookup name with
      | none => do
          let inner ← alter made enters act path made []
          pure (put name (.table made inner) entries)
      | some (.leaf _) => none
      | some (.table origin inner) =>
          if enters origin then do
            let changed ← alter made enters act path origin inner
            pure (put name (.table origin changed) entries)
          else none
      | some (.elements tables) =>
          match tables.reverse with
          | [] => none
          | last :: before => do
              let changed ← alter made enters act path .header last
              pure (put name (.elements (before.reverse ++ [changed])) entries)

def assign (path : KeyPath) (value : Value) (entries : Entries) : Option Entries :=
  alter .dotted (· ≠ .header)
    (fun origin reached =>
      if (path.parents = [] ∨ origin = .dotted) ∧ reached.lookup path.last = none then
        some (reached ++ [(path.last, .leaf value)])
      else none)
    path.parents .header entries

def throughHeader (act : Entries → Option Entries) (path : List String) (root : Entries) :
    Option Entries :=
  alter .passage (fun _ => true) (fun _ reached => act reached) path .header root

def openTable (path : KeyPath) (root : Entries) : Option Entries :=
  throughHeader
    (fun reached =>
      match reached.lookup path.last with
      | none => some (reached ++ [(path.last, .table .header [])])
      | some (.table .passage inner) =>
          some (erase path.last reached ++ [(path.last, .table .header inner)])
      | some _ => none)
    path.parents root

def openElement (path : KeyPath) (root : Entries) : Option Entries :=
  throughHeader
    (fun reached =>
      match reached.lookup path.last with
      | none => some (reached ++ [(path.last, .elements [[]])])
      | some (.elements tables) => some (put path.last (.elements (tables ++ [[]])) reached)
      | some _ => none)
    path.parents root

def assignIn (header : List String) (path : KeyPath) (value : Value) (root : Entries) :
    Option Entries :=
  throughHeader (assign path value) header root

end Entries

namespace Node

mutual

def toValue : Node → Value
  | .leaf value => value
  | .table _ entries => .table (entryValues entries)
  | .elements tables => .array (tableValues tables)

def entryValues : List (String × Node) → List (String × Value)
  | [] => []
  | (name, node) :: rest => (name, toValue node) :: entryValues rest

def tableValues : List (List (String × Node)) → List Value
  | [] => []
  | entries :: rest => .table (entryValues entries) :: tableValues rest

end

end Node

end TwinView.Toml
