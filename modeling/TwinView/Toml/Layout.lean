import TwinView.Toml.Scan

/-!
What stands between the parts of a document: blanks, comments and line ends.
-/

namespace TwinView.Toml

def isSpace (c : Char) : Bool :=
  c = ' ' || c = '\t'

/-- Every character but the controls; of those only the tab may stand in a text. -/
def isTextual (c : Char) : Bool :=
  c = '\t' || (0x20 ≤ c.toNat && c.toNat ≠ 0x7F)

namespace Scan

def spaces : Scan Unit := do
  let _ ← run isSpace

/-- A line feed, alone or after a carriage return. -/
def newline : Scan Unit := do
  let _ ← accept ['\r']
  char '\n'

def comment : Scan Unit := do
  char '#'
  let _ ← run isTextual

def lineEnd : Scan Unit := do
  match ← peek with
  | none => pure ()
  | some _ => newline

/-- What may follow a complete line: blanks, a comment, and the line end. -/
def lineRest : Scan Unit := do
  spaces
  if (← peek) = some '#' then comment
  lineEnd

/-- Blanks, comments and line ends, as far as they go. A comment must have a line end here. -/
def gap : Scan Unit := do
  let _ ← collect (α := Unit) do
    spaces
    match ← peek with
    | some '#' => do comment; newline; pure (some ())
    | some '\n' | some '\r' => do newline; pure (some ())
    | _ => pure none

end Scan

end TwinView.Toml
