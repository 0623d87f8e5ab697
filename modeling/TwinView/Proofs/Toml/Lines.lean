import TwinView.Proofs.Toml.Words

/-!
Lines that hold one statement each: a header of one part, or a number or a plain string that is given to a bare key.
A value and a line come with what a reader makes of them, so that documents can be put together from them.
-/

namespace TwinView.Toml

/-- A text that is read as one statement, whichever line end comes after it. -/
structure Line where
  text : List Char
  statement : Statement
  opening : ∃ c rest, text = c :: rest ∧ isSpace c = false
  reads : ∀ rest, LineEnd rest →
    StateT.run Scan.line (text ++ rest) = some (some statement, rest.tail)

/-- A text that is read as one value at the end of a line. -/
structure Written where
  text : List Char
  value : Value
  opening : ∃ c rest, text = c :: rest ∧ isSpace c = false
  reads : ∀ rest, LineEnd rest → StateT.run (Scan.value Scan.nesting) (text ++ rest) = some (value, rest)

namespace Scan

theorem run_value_atom {c : Char} (notArray : c ≠ '[') (notTable : c ≠ '{') (depth : Nat) (rest : List Char) :
    StateT.run (value depth) (c :: rest) = StateT.run atom (c :: rest) := by
  cases depth with
  | zero => rfl
  | succ depth =>
      rw [value, run_bind_some (run_peek _), List.head?_cons]
      split
      · next array => exact absurd (Option.some.inj array) notArray
      · next table => exact absurd (Option.some.inj table) notTable
      · rfl

theorem run_atom_digit {c : Char} (digit : c.isDigit = true) (rest : List Char) :
    StateT.run atom (c :: rest) = StateT.run number (c :: rest) := by
  rw [atom, run_bind_some (run_peek _), List.head?_cons]
  split
  · next quoted => cases quoted; cases digit
  · next quoted => cases quoted; cases digit
  · next word => cases word; cases digit
  · next word => cases word; cases digit
  · rfl

theorem run_value_number {value : Nat} (small : value < 0x8000000000000000) {rest : List Char}
    (stop : LineEnd rest) :
    StateT.run (Scan.value nesting) (Nat.toDigits 10 value ++ rest) = some (.integer value, rest) := by
  obtain ⟨c, others, written, digit⟩ := Text.head_of_toDigits value
  have number := Numeral.run_number small stop
  have notArray : c ≠ '[' := by
    rintro rfl
    cases digit
  have notTable : c ≠ '{' := by
    rintro rfl
    cases digit
  rw [written, List.cons_append] at number ⊢
  rw [run_value_atom notArray notTable, run_atom_digit digit, number]

theorem run_value_string (plain : PlainText) (rest : List Char) :
    StateT.run (Scan.value nesting) ('"' :: (plain.text.toList ++ ['"']) ++ rest) =
      some (.string plain.text, rest) := by
  have written : '"' :: (plain.text.toList ++ ['"']) ++ rest =
      '"' :: (plain.text.toList ++ '"' :: rest) := by simp
  rw [written, run_value_atom (by decide) (by decide), atom, run_bind_some (run_peek _)]
  show StateT.run (string >>= _) _ = _
  rw [run_bind_some (run_string plain rest), String.ofList_toList]
  rfl

theorem run_spaces_end {rest : List Char} (stop : LineEnd rest) :
    StateT.run spaces rest = some ((), rest) := by
  cases stop <;> rfl

theorem run_lineRest {rest : List Char} (stop : LineEnd rest) :
    StateT.run lineRest rest = some ((), rest.tail) := by
  cases stop <;> rfl

theorem run_headerLine (name : BareName) {rest : List Char} (stop : LineEnd rest) :
    StateT.run line ('[' :: (name.text.toList ++ [']']) ++ rest) =
      some (some (.header ⟨[], name.text⟩), rest.tail) := by
  obtain ⟨c, others, shape, bare⟩ := name.head
  have opened : ∀ text, StateT.run (char '[') ('[' :: text) = some ((), text) := fun text => rfl
  have closing : StateT.run (char ']') (']' :: rest) = some ((), rest) := rfl
  -- A repeated header would have a second bracket where the name starts.
  have noElement : StateT.run element ('[' :: (name.text.toList ++ ']' :: rest)) = none := by
    apply run_bind_none
    rw [word, run_bind_some (opened _), word, shape, List.cons_append]
    apply run_bind_none
    rw [run_char, if_neg (ne_of_bare bare rfl)]
  have one : StateT.run header ('[' :: (name.text.toList ++ ']' :: rest)) =
      some (.header ⟨[], name.text⟩, rest) := by
    rw [header, run_bind_some (opened _), run_bind_some (run_key name rest rfl rfl (by decide)),
      run_bind_some closing]
    rfl
  have either : StateT.run (element <|> header) ('[' :: (name.text.toList ++ ']' :: rest)) =
      some (.header ⟨[], name.text⟩, rest) := by
    rw [run_orElse_none noElement, one]
  have written : '[' :: (name.text.toList ++ [']']) ++ rest = '[' :: (name.text.toList ++ ']' :: rest) := by
    simp
  rw [written, line, run_bind_some (run_peek _)]
  show StateT.run ((element <|> header) >>= _) _ = _
  rw [run_bind_some either, run_bind_some (run_lineRest stop)]
  rfl

theorem run_assignment (name : BareName) {text : List Char} {value : Value} {rest : List Char}
    (solid : ∃ c others, text = c :: others ∧ isSpace c = false)
    (read : StateT.run (Scan.value nesting) (text ++ rest) = some (value, rest)) (stop : LineEnd rest) :
    StateT.run (assignment (Scan.value nesting)) (name.text.toList ++ ' ' :: '=' :: ' ' :: (text ++ rest)) =
      some ((⟨[], name.text⟩, value), rest) := by
  have named : StateT.run key (name.text.toList ++ ' ' :: '=' :: ' ' :: (text ++ rest)) =
      some (⟨[], name.text⟩, '=' :: ' ' :: (text ++ rest)) := run_key name _ rfl rfl (by decide)
  have equals : StateT.run (char '=') ('=' :: ' ' :: (text ++ rest)) =
      some ((), ' ' :: (text ++ rest)) := rfl
  have gap : StateT.run spaces (' ' :: (text ++ rest)) = some ((), text ++ rest) := by
    obtain ⟨first, later, begun, visible⟩ := solid
    rw [begun]
    exact run_spaces_solid visible _
  rw [assignment, run_bind_some named, run_bind_some equals, run_bind_some gap, run_bind_some read,
    run_bind_some (run_spaces_end stop)]
  rfl

theorem run_entryLine (name : BareName) {text : List Char} {value : Value} {rest : List Char}
    (solid : ∃ c others, text = c :: others ∧ isSpace c = false)
    (read : StateT.run (Scan.value nesting) (text ++ rest) = some (value, rest)) (stop : LineEnd rest) :
    StateT.run line (name.text.toList ++ ' ' :: '=' :: ' ' :: text ++ rest) =
      some (some (.entry ⟨[], name.text⟩ value), rest.tail) := by
  obtain ⟨c, others, shape, bare⟩ := name.head
  have given : StateT.run entry (name.text.toList ++ ' ' :: '=' :: ' ' :: (text ++ rest)) =
      some (.entry ⟨[], name.text⟩ value, rest) := by
    rw [entry, run_bind_some (run_assignment name solid read stop)]
    rfl
  have written : name.text.toList ++ ' ' :: '=' :: ' ' :: text ++ rest =
      name.text.toList ++ ' ' :: '=' :: ' ' :: (text ++ rest) := by simp
  have present : StateT.run peek (name.text.toList ++ ' ' :: '=' :: ' ' :: (text ++ rest)) =
      some (some c, name.text.toList ++ ' ' :: '=' :: ' ' :: (text ++ rest)) := by
    rw [run_peek, shape]
    rfl
  rw [written, line, run_bind_some present]
  -- What a line starts with decides what it is; none of the other marks starts a name.
  split
  · next feed => exact absurd (Option.some.inj feed) (ne_of_bare bare rfl)
  · next back => exact absurd (Option.some.inj back) (ne_of_bare bare rfl)
  · next remark => exact absurd (Option.some.inj remark) (ne_of_bare bare rfl)
  · next bracket => exact absurd (Option.some.inj bracket) (ne_of_bare bare rfl)
  · rw [run_bind_some given, run_bind_some (run_lineRest stop)]
    rfl

end Scan

namespace Written

def number (value : Nat) (small : value < 0x8000000000000000) : Written where
  text := Nat.toDigits 10 value
  value := .integer value
  opening := by
    obtain ⟨c, others, written, digit⟩ := Text.head_of_toDigits value
    exact ⟨c, others, written, Scan.isSpace_of_bare (by simp [Scan.isBareKey, Char.isAlphanum, digit])⟩
  reads rest stop := Scan.run_value_number small stop

def string (plain : PlainText) : Written where
  text := '"' :: (plain.text.toList ++ ['"'])
  value := .string plain.text
  opening := ⟨'"', _, rfl, rfl⟩
  reads rest _ := Scan.run_value_string plain rest

end Written

namespace Line

def header (name : BareName) : Line where
  text := '[' :: (name.text.toList ++ [']'])
  statement := .header ⟨[], name.text⟩
  opening := ⟨'[', _, rfl, rfl⟩
  reads _ stop := Scan.run_headerLine name stop

def entry (name : BareName) (written : Written) : Line where
  text := name.text.toList ++ ' ' :: '=' :: ' ' :: written.text
  statement := .entry ⟨[], name.text⟩ written.value
  opening := by
    obtain ⟨c, rest, text, bare⟩ := name.head
    exact ⟨c, _, by rw [text, List.cons_append], Scan.isSpace_of_bare bare⟩
  reads rest stop := Scan.run_entryLine name written.opening (written.reads rest stop) stop

end Line

end TwinView.Toml
