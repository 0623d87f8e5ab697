import TwinView.Toml.Layout
import TwinView.Toml.Number
import TwinView.Toml.Text
import TwinView.Toml.Tree

/-!
A document as a list of statements: headers, repeated headers, and keys with values. Arrays and inline
tables may be nested to a fixed depth; a key has a bounded number of parts.
-/

namespace TwinView.Toml

inductive Statement where
  | header (path : KeyPath)
  | element (path : KeyPath)
  | entry (path : KeyPath) (value : Value)

namespace Scan

/-- How deep arrays and inline tables may be nested. -/
def nesting : Nat := 79

def keyParts : Nat := 79

def isBareKey (c : Char) : Bool :=
  c.isAlphanum || c = '_' || c = '-'

def simpleKey : Scan String := do
  let chars ← basicString <|> literalString <|> run1 isBareKey
  pure (String.ofList chars)

def keyPart : Scan String := do
  spaces
  let name ← simpleKey
  spaces
  pure name

def separated {α : Type} (mark : Char) (item : Scan α) : Scan (List α) := do
  let first ← item
  let rest ← collect do
    (do char mark; return some (← item)) <|> pure none
  pure (first :: rest)

def key : Scan KeyPath := do
  let names ← separated '.' keyPart
  if keyParts < names.length then failure
  else match KeyPath.ofList names with
    | some path => pure path
    | none => failure

def keyword (spelling : String) (value : Value) : Scan Value := do
  word spelling.toList
  pure value

def atom : Scan Value := do
  match ← peek with
  | some '"' | some '\'' => return .string (String.ofList (← string))
  | some 't' => keyword "true" (.boolean true)
  | some 'f' => keyword "false" (.boolean false)
  | _ => number

def arrayOf (item : Scan Value) : Scan Value := do
  char '['
  let items ← separated ',' (do gap; let value ← item; gap; pure value) <|> pure []
  unless items.isEmpty do
    let _ ← accept [',']
  gap
  char ']'
  pure (.array items)

def assignment (item : Scan Value) : Scan (KeyPath × Value) := do
  let path ← key
  char '='
  spaces
  let value ← item
  spaces
  pure (path, value)

def inlineTableOf (item : Scan Value) : Scan Value := do
  char '{'
  let pairs ← separated ',' (assignment item) <|> pure []
  spaces
  char '}'
  match pairs.foldlM (fun entries (path, value) => Entries.assign path value entries) [] with
  | some entries => pure (.table (Node.entryValues entries))
  | none => failure

def value : Nat → Scan Value
  | 0 => atom
  | depth + 1 => do
      match ← peek with
      | some '[' => arrayOf (value depth)
      | some '{' => inlineTableOf (value depth)
      | _ => atom

def element : Scan Statement := do
  word ['[', '[']
  let path ← key
  word [']', ']']
  pure (.element path)

def header : Scan Statement := do
  char '['
  let path ← key
  char ']'
  pure (.header path)

def entry : Scan Statement := do
  let (path, value) ← assignment (value nesting)
  pure (.entry path value)

/-- One line: nothing for a blank line or a comment, otherwise its statement. -/
def line : Scan (Option Statement) := do
  match ← peek with
  | some '\n' | some '\r' => do newline; pure none
  | some '#' => do comment; lineEnd; pure none
  | some '[' => do
      let statement ← element <|> header
      lineRest
      pure (some statement)
  | _ => do
      let statement ← entry
      lineRest
      pure (some statement)

/-- A byte order mark may stand in front of everything. -/
def document : Scan (List Statement) := do
  let _ ← accept ['\uFEFF']
  spaces
  let lines ← collect do
    if (← peek).isNone then pure none
    else do
      let statement ← line
      spaces
      pure (some statement)
  pure (lines.filterMap id)

end Scan

namespace Statement

def ofText (text : List Char) : Option (List Statement) :=
  Scan.document.whole text

end Statement

end TwinView.Toml
