import TwinView.Toml.Statement

/-!
The table that a document describes. Statements are taken in order; each header decides where the keys
after it go.
-/

namespace TwinView.Toml

/-- What has been built so far and the header that is open; at the start none is. -/
structure Draft where
  root : Entries
  header : List String

namespace Draft

def empty : Draft := ⟨[], []⟩

def take (draft : Draft) : Statement → Option Draft
  | .header path => do
      let root ← Entries.openTable path draft.root
      pure ⟨root, path.toList⟩
  | .element path => do
      let root ← Entries.openElement path draft.root
      pure ⟨root, path.toList⟩
  | .entry path value => do
      let root ← Entries.assignIn draft.header path value draft.root
      pure { draft with root := root }

end Draft

def Document.ofText (text : List Char) : Option (List (String × Value)) := do
  let statements ← Statement.ofText text
  let draft ← statements.foldlM Draft.take Draft.empty
  pure (Node.entryValues draft.root)

end TwinView.Toml
