import TwinView.Proofs.Toml.Hereditary
import TwinView.Proofs.Toml.Tables

/-!
What settings rely on in a reader of documents. These are facts about documents alone: integers are signed words, no
table has a key twice, and a header with plain lines under it is a table of what they say, in their order. Settings
can be read with any reader of which they hold; they hold of the one that is here.
-/

namespace TwinView.Toml

/-- A value that is written without a sign and without escapes. -/
inductive Plain where
  | number (value : Nat) (small : value < 0x8000000000000000)
  | string (content : PlainText)

namespace Plain

def text : Plain → List Char
  | .number value _ => Nat.toDigits 10 value
  | .string content => '"' :: (content.text.toList ++ ['"'])

def value : Plain → Value
  | .number value _ => .integer value
  | .string content => .string content.text

def written : Plain → Written
  | .number value small => .number value small
  | .string content => .string content

theorem written_text (plain : Plain) : plain.written.text = plain.text := by
  cases plain <;> rfl

theorem written_value (plain : Plain) : plain.written.value = plain.value := by
  cases plain <;> rfl

end Plain

/-- One table, each of its keys on a line of its own. -/
def tableText (closed : Bool) (name : BareName) (lines : List (BareName × Plain)) : List Char :=
  '[' :: (name.text.toList ++ [']']) ++
    following closed (lines.map fun line => line.1.text.toList ++ " = ".toList ++ line.2.text)

namespace Reader

def IsSigned (reader : Reader) : Prop :=
  ∀ ⦃text entries⦄, reader text = some entries → (Value.table entries).Signed

def IsDistinct (reader : Reader) : Prop :=
  ∀ ⦃text entries⦄, reader text = some entries → (Value.table entries).Distinct

/-- One table with different keys is read as this table, with its keys in the order of their lines. -/
def ReadsTables (reader : Reader) : Prop :=
  ∀ closed name (lines : List (BareName × Plain)), (lines.map (·.1.text)).Nodup →
    reader (tableText closed name lines) =
      some [(name.text, .table (lines.map fun line => (line.1.text, line.2.value)))]

end Reader

namespace Document

theorem isSigned : Reader.IsSigned Document.ofText :=
  fun _ _ read => signed_hereditary.document read

theorem isDistinct : Reader.IsDistinct Document.ofText :=
  fun _ _ read => distinct_hereditary.document read

theorem readsTables : Reader.ReadsTables Document.ofText := by
  intro closed name lines distinct
  let pairs := lines.map fun line => (line.1, line.2.written)
  have different : (pairs.map (·.1.text)).Nodup := by
    simpa [pairs, Function.comp_def] using distinct
  have texts : tableText closed name lines = (Line.header name).text ++
      following closed (pairs.map fun pair => (Line.entry pair.1 pair.2).text) := by
    simp [tableText, pairs, Line.header, Line.entry, Function.comp_def, Plain.written_text]
  rw [texts, ofText_table closed name pairs different]
  simp [pairs, Function.comp_def, Plain.written_value]

end Document

end TwinView.Toml
