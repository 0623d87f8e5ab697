import TwinView.Proofs.Toml.Lines
import TwinView.Toml.Document

/-!
Documents of a plain shape: one header, and under it lines that give values to different keys, without comments or
blank lines between them. Such a document is one table.
-/

namespace TwinView.Toml

/-- Lines that follow another one. The last line may have a line end of its own. -/
def following (closed : Bool) (texts : List (List Char)) : List Char :=
  texts.flatMap ('\n' :: ·) ++ if closed then ['\n'] else []

theorem following_cons (closed : Bool) (text : List Char) (texts : List (List Char)) :
    following closed (text :: texts) = '\n' :: (text ++ following closed texts) := by
  simp [following]

theorem length_le_following (closed : Bool) (texts : List (List Char)) :
    texts.length ≤ (following closed texts).length := by
  induction texts with
  | nil => exact Nat.zero_le _
  | cons text rest ih =>
      rw [following_cons, List.length_cons, List.length_cons, List.length_append]
      omega

theorem lineEnd_following (closed : Bool) (texts : List (List Char)) :
    LineEnd (following closed texts) := by
  cases texts with
  | nil => cases closed <;> constructor
  | cons text rest =>
      rw [following_cons]
      constructor

namespace Scan

/-- What a document repeats. -/
def statementLine : Scan (Option (Option Statement)) := do
  if (← peek).isNone then pure none
  else do
    let statement ← line
    spaces
    pure (some statement)

theorem document_eq : document = (do
    let _ ← accept ['\uFEFF']
    spaces
    let lines ← collect statementLine
    pure (lines.filterMap id)) := rfl

/-- Between a line end and the next line there are no blanks. -/
theorem run_spaces_following (closed : Bool) (lines : List Line) :
    StateT.run spaces (following closed (lines.map Line.text)).tail =
      some ((), (following closed (lines.map Line.text)).tail) := by
  cases lines with
  | nil => cases closed <;> rfl
  | cons line rest =>
      obtain ⟨c, others, written, solid⟩ := line.opening
      rw [List.map_cons, following_cons, written]
      exact run_spaces_solid solid _

theorem run_statementLine (closed : Bool) (line : Line) (rest : List Line) :
    StateT.run statementLine (line.text ++ following closed (rest.map Line.text)) =
      some (some (some line.statement), (following closed (rest.map Line.text)).tail) := by
  obtain ⟨c, others, written, solid⟩ := line.opening
  have present : StateT.run peek (line.text ++ following closed (rest.map Line.text)) =
      some (some c, line.text ++ following closed (rest.map Line.text)) := by
    rw [run_peek, written]
    rfl
  have read := line.reads _ (lineEnd_following closed (rest.map Line.text))
  rw [statementLine, run_bind_some present, if_neg (by simp), run_bind_some read,
    run_bind_some (run_spaces_following closed rest)]
  rfl

/-- Each line takes a repetition of its own, and the end of the text takes none. -/
theorem collects_lines (closed : Bool) (lines : List Line) :
    Collects statementLine (following closed (lines.map Line.text)).tail
      (lines.map (some ·.statement)) [] := by
  induction lines with
  | nil => cases closed <;> exact .stop rfl
  | cons line rest ih =>
      rw [List.map_cons, following_cons, List.tail_cons]
      exact .item (run_statementLine closed line rest) ih

end Scan

/-- The statements of lines that follow each other, of which the first is a header. -/
theorem Statement.ofText_lines (closed : Bool) (name : BareName) (lines : List Line) :
    Statement.ofText ((Line.header name).text ++ following closed (lines.map Line.text)) =
      some (.header ⟨[], name.text⟩ :: lines.map Line.statement) := by
  have all : (Line.header name).text ++ following closed (lines.map Line.text) =
      (following closed ((Line.header name :: lines).map Line.text)).tail := by
    rw [List.map_cons, following_cons, List.tail_cons]
  have unmarked : StateT.run (Scan.accept ['\uFEFF'])
      (following closed ((Line.header name :: lines).map Line.text)).tail =
        some (false, (following closed ((Line.header name :: lines).map Line.text)).tail) := by
    rw [← all]
    rfl
  have enough : ((Line.header name :: lines).map (some ·.statement)).length ≤
      (following closed ((Line.header name :: lines).map Line.text)).tail.length := by
    have later : lines.length ≤ (following closed (lines.map Line.text)).length := by
      simpa using length_le_following closed (lines.map Line.text)
    rw [← all, List.length_map, List.length_append, List.length_cons, Line.header, List.length_cons]
    omega
  have collected := (Scan.collects_lines closed (Line.header name :: lines)).run_collect enough
  have read : StateT.run Scan.document
      (following closed ((Line.header name :: lines).map Line.text)).tail =
        some (.header ⟨[], name.text⟩ :: lines.map Line.statement, []) := by
    rw [Scan.document_eq, Scan.run_bind_some unmarked,
      Scan.run_bind_some (Scan.run_spaces_following closed (Line.header name :: lines)),
      Scan.run_bind_some collected]
    simp [List.filterMap_map, Line.header]
  rw [Statement.ofText, Scan.whole, all, read]

namespace Draft

/-- The statement that gives a value to a name of the open table. -/
def assigning (pair : String × Value) : Statement :=
  .entry ⟨[], pair.1⟩ pair.2

def leaf (pair : String × Value) : String × Node :=
  (pair.1, .leaf pair.2)

/-- A document in which one header is open, with what stands under it. -/
def under (name : String) (entries : Entries) : Draft :=
  ⟨[(name, .table .header entries)], [name]⟩

theorem take_assigning {name : String} {entries : Entries} {pair : String × Value}
    (absent : entries.lookup pair.1 = none) :
    (under name entries).take (assigning pair) = some (under name (entries ++ [leaf pair])) := by
  simp [under, take, assigning, leaf, Entries.assignIn, Entries.throughHeader, Entries.alter,
    Entries.assign, Entries.put, absent]

theorem take_all {name : String} {entries : Entries} {assigned : List (String × Value)}
    (distinct : (assigned.map Prod.fst).Nodup)
    (fresh : ∀ pair ∈ assigned, entries.lookup pair.1 = none) :
    (assigned.map assigning).foldlM take (under name entries) =
      some (under name (entries ++ assigned.map leaf)) := by
  induction assigned generalizing entries with
  | nil => simp
  | cons pair rest ih =>
      -- What the first statement adds must not be in the way of the others.
      rw [List.map_cons, List.nodup_cons] at distinct
      have absent := fresh pair List.mem_cons_self
      have remain : ∀ other ∈ rest, (entries ++ [leaf pair]).lookup other.1 = none := by
        intro other member
        have different : other.1 ≠ pair.1 := by
          intro same
          exact distinct.1 (same ▸ List.mem_map_of_mem member)
        have before := fresh other (List.mem_cons_of_mem pair member)
        simp [List.lookup_append, before, leaf, different]
      rw [List.map_cons, List.foldlM_cons, take_assigning absent, Option.bind_eq_bind, Option.bind_some,
        ih distinct.2 remain, List.map_cons, List.append_assoc, List.singleton_append]

end Draft

theorem Node.entryValues_leaves (assigned : List (String × Value)) :
    entryValues (assigned.map Draft.leaf) = assigned := by
  induction assigned with
  | nil => rfl
  | cons pair rest ih => rw [List.map_cons, Draft.leaf, entryValues, toValue, ih]

/-- One header with different keys under it is a table of these keys, in the order of their lines. -/
theorem Document.ofText_table (closed : Bool) (name : BareName) (pairs : List (BareName × Written))
    (distinct : (pairs.map (·.1.text)).Nodup) :
    Document.ofText ((Line.header name).text ++
        following closed (pairs.map fun pair => (Line.entry pair.1 pair.2).text)) =
      some [(name.text, .table (pairs.map fun pair => (pair.1.text, pair.2.value)))] := by
  let lines := pairs.map fun pair => Line.entry pair.1 pair.2
  let assigned := pairs.map fun pair => (pair.1.text, pair.2.value)
  have texts : (pairs.map fun pair => (Line.entry pair.1 pair.2).text) = lines.map Line.text := by
    simp [lines]
  have statements : lines.map Line.statement = assigned.map Draft.assigning := by
    simp [lines, assigned, Function.comp_def, Line.entry, Draft.assigning]
  have different : (assigned.map Prod.fst).Nodup := by
    simpa [assigned, Function.comp_def] using distinct
  have opened : Draft.empty.take (.header ⟨[], name.text⟩) = some (Draft.under name.text []) := rfl
  have taken : (assigned.map Draft.assigning).foldlM Draft.take (Draft.under name.text []) =
      some (Draft.under name.text (assigned.map Draft.leaf)) :=
    Draft.take_all different fun _ _ => rfl
  rw [Document.ofText, texts, Statement.ofText_lines closed name lines, statements]
  simp only [List.foldlM_cons, opened, taken, Option.bind_eq_bind, Option.bind_some]
  show some [(name.text, Value.table (Node.entryValues (assigned.map Draft.leaf)))] = _
  rw [Node.entryValues_leaves]

end TwinView.Toml
