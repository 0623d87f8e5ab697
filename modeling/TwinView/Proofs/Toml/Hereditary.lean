import Mathlib.Data.List.Nodup
import TwinView.Proofs.Toml.Scanned

/-!
What holds of every value and every table of a document, however deep in arrays, inline tables, dotted keys or
repeated headers. It has to hold of the values without parts, and the keys of a table have to stand a new key at
the end and an old one that moves there: nothing else is ever done to a table. Integers are signed words for this
reason, and no table has a key twice.
-/

namespace TwinView.Toml

/-- A property of values that is decided by the values without parts and by the keys of each table. -/
structure Hereditary (keys : List String → Prop) (good : Value → Prop) : Prop where
  initial : keys []
  added {names : List String} {name : String} : keys names → name ∉ names → keys (names ++ [name])
  moved {names : List String} {name : String} : keys names → keys (names.erase name ++ [name])
  atomic {value : Value} : value.Atomic → good value
  array_iff {items : List Value} : good (.array items) ↔ ∀ item ∈ items, good item
  table_iff {entries : List (String × Value)} :
    good (.table entries) ↔ keys (entries.map Prod.fst) ∧ ∀ entry ∈ entries, good entry.2

/-- What each item of a list keeps is kept by all of them. -/
theorem foldlM_keeps {σ α : Type} {step : σ → α → Option σ} (keeps : σ → Prop) {fine : α → Prop}
    (steps : ∀ state item next, keeps state → fine item → step state item = some next → keeps next)
    {items : List α} {first last : σ} (start : keeps first) (all : ∀ item ∈ items, fine item)
    (done : items.foldlM step first = some last) : keeps last := by
  induction items generalizing first with
  | nil =>
      cases done
      exact start
  | cons item rest ih =>
      rw [List.foldlM_cons] at done
      obtain ⟨next, taken, later⟩ := Option.bind_eq_some_iff.mp done
      rw [List.forall_mem_cons] at all
      exact ih (steps first item next start all.1 taken) all.2 later

namespace Node

theorem entryValues_eq (entries : Entries) :
    entryValues entries = entries.map fun entry => (entry.1, entry.2.toValue) := by
  induction entries with
  | nil => rfl
  | cons entry rest ih => rw [entryValues, ih, List.map_cons]

theorem tableValues_eq (tables : List Entries) :
    tableValues tables = tables.map fun entries => .table (entryValues entries) := by
  induction tables with
  | nil => rfl
  | cons entries rest ih => rw [tableValues, ih, List.map_cons]

end Node

namespace Entries

variable {name : String} {node : Node} {entries : Entries}

def names (entries : Entries) : List String := entries.map Prod.fst

theorem lookup_eq_none_iff : entries.lookup name = none ↔ name ∉ entries.names := by
  simp only [List.lookup_eq_none_iff, names, List.mem_map, not_exists, not_and, bne_iff_ne]
  exact ⟨fun absent entry member same => absent entry member same.symm,
    fun absent entry member same => absent entry member same.symm⟩

theorem names_append : names (entries ++ [(name, node)]) = entries.names ++ [name] := List.map_append

theorem names_erase : (erase name entries).names = entries.names.erase name := by
  induction entries with
  | nil => rfl
  | cons entry rest ih =>
      obtain ⟨label, node⟩ := entry
      by_cases same : label = name
      · simp [erase, names, same]
      · simpa [erase, names, same] using ih

theorem put_absent (absent : name ∉ entries.names) : put name node entries = entries ++ [(name, node)] := by
  induction entries with
  | nil => rfl
  | cons entry rest ih =>
      rw [names, List.map_cons, List.mem_cons, not_or] at absent
      rw [put, if_neg (Ne.symm absent.1), ih absent.2, List.cons_append]

theorem names_put_present (present : name ∈ entries.names) :
    (put name node entries).names = entries.names := by
  induction entries with
  | nil => cases present
  | cons entry rest ih =>
      obtain ⟨label, old⟩ := entry
      by_cases same : label = name
      · simp [put, names, same]
      · have later : name ∈ names rest := by simpa [names, Ne.symm same] using present
        simpa [put, names, same] using ih later

theorem mem_put {entry : String × Node} (member : entry ∈ put name node entries) :
    entry = (name, node) ∨ entry ∈ entries := by
  induction entries with
  | nil => exact Or.inl (List.mem_singleton.mp member)
  | cons first rest ih =>
      rw [put] at member
      split at member
      · rcases List.mem_cons.mp member with new | old
        · exact Or.inl new
        · exact Or.inr (List.mem_cons_of_mem _ old)
      · rcases List.mem_cons.mp member with rfl | later
        · exact Or.inr List.mem_cons_self
        · exact (ih later).imp_right (List.mem_cons_of_mem _)

theorem mem_of_mem_erase {entry : String × Node} (member : entry ∈ erase name entries) :
    entry ∈ entries := by
  induction entries with
  | nil => exact member
  | cons first rest ih =>
      rw [erase] at member
      split at member
      · exact List.mem_cons_of_mem _ member
      · rcases List.mem_cons.mp member with rfl | later
        · exact List.mem_cons_self
        · exact List.mem_cons_of_mem _ (ih later)

/-- The table that the entries make is good. -/
structure Makes (keys : List String → Prop) (good : Value → Prop) (entries : Entries) : Prop where
  names : keys entries.names
  nodes : ∀ entry ∈ entries, good entry.2.toValue

end Entries

section Trees

variable {keys : List String → Prop} {good : Value → Prop} (rule : Hereditary keys good)
  {name : String} {node : Node} {entries changed : Entries}

open Entries (Makes)

namespace Hereditary

include rule

theorem entryValues_iff : good (.table (Node.entryValues entries)) ↔ entries.Makes keys good := by
  rw [rule.table_iff, Node.entryValues_eq, List.map_map, List.forall_mem_map]
  exact ⟨fun ⟨names, nodes⟩ => ⟨names, nodes⟩, fun ⟨names, nodes⟩ => ⟨names, nodes⟩⟩

theorem table_node_iff {origin : Origin} :
    good (Node.table origin entries).toValue ↔ entries.Makes keys good := by
  rw [Node.toValue]
  exact rule.entryValues_iff

theorem elements_node_iff {tables : List Entries} :
    good (Node.elements tables).toValue ↔ ∀ entries ∈ tables, entries.Makes keys good := by
  rw [Node.toValue, rule.array_iff, Node.tableValues_eq, List.forall_mem_map]
  exact forall₂_congr fun entries _ => rule.entryValues_iff

theorem empty : Makes keys good [] := ⟨rule.initial, List.forall_mem_nil _⟩

theorem append (made : entries.Makes keys good) (absent : entries.lookup name = none)
    (fine : good node.toValue) : Makes keys good (entries ++ [(name, node)]) := by
  constructor
  · rw [Entries.names_append]
    exact rule.added made.names (Entries.lookup_eq_none_iff.mp absent)
  · intro entry member
    rcases List.mem_append.mp member with old | new
    · exact made.nodes entry old
    · rw [List.mem_singleton.mp new]
      exact fine

theorem put (made : entries.Makes keys good) (fine : good node.toValue) :
    (Entries.put name node entries).Makes keys good := by
  by_cases present : name ∈ entries.names
  · constructor
    · rw [Entries.names_put_present present]
      exact made.names
    · intro entry member
      rcases Entries.mem_put member with rfl | old
      · exact fine
      · exact made.nodes entry old
  · rw [Entries.put_absent present]
    exact rule.append made (Entries.lookup_eq_none_iff.mpr present) fine

theorem move (made : entries.Makes keys good) (fine : good node.toValue) :
    Makes keys good (Entries.erase name entries ++ [(name, node)]) := by
  constructor
  · rw [Entries.names_append, Entries.names_erase]
    exact rule.moved made.names
  · intro entry member
    rcases List.mem_append.mp member with old | new
    · exact made.nodes entry (Entries.mem_of_mem_erase old)
    · rw [List.mem_singleton.mp new]
      exact fine

omit rule in
theorem lookup (made : entries.Makes keys good) (found : entries.lookup name = some node) :
    good node.toValue := by
  obtain ⟨before, after, split, _⟩ := List.lookup_eq_some_iff.mp found
  exact made.nodes (name, node) (split ▸ List.mem_append_cons_self)

/-- What is done to the table at the end of a path is all that is done to a tree. -/
theorem alter {made : Origin} {enters : Origin → Bool} {act : Origin → Entries → Option Entries}
    (acts : ∀ origin reached next, act origin reached = some next → reached.Makes keys good →
      next.Makes keys good)
    {path : List String} {origin : Origin} (makes : entries.Makes keys good)
    (altered : Entries.alter made enters act path origin entries = some changed) :
    changed.Makes keys good := by
  induction path generalizing origin entries changed with
  | nil => exact acts origin entries changed altered makes
  | cons name path ih =>
      rw [Entries.alter] at altered
      -- What the name stands for: nothing yet, a value, a table, or the tables of a repeated header.
      split at altered
      · obtain ⟨inner, reached, same⟩ := Option.bind_eq_some_iff.mp altered
        cases same
        exact rule.put makes (rule.table_node_iff.mpr (ih rule.empty reached))
      · cases altered
      · rename_i origin inner found
        have within := rule.table_node_iff.mp (lookup makes found)
        split at altered
        · obtain ⟨next, reached, same⟩ := Option.bind_eq_some_iff.mp altered
          cases same
          exact rule.put makes (rule.table_node_iff.mpr (ih within reached))
        · cases altered
      · rename_i tables found
        have within := rule.elements_node_iff.mp (lookup makes found)
        split at altered
        · cases altered
        · rename_i last before order
          obtain ⟨next, reached, same⟩ := Option.bind_eq_some_iff.mp altered
          cases same
          rw [List.reverse_eq_cons_iff.mp order, List.forall_mem_append, List.forall_mem_singleton] at within
          apply rule.put makes
          rw [rule.elements_node_iff, List.forall_mem_append, List.forall_mem_singleton]
          exact ⟨within.1, ih within.2 reached⟩

theorem assign {path : KeyPath} {value : Value} (makes : entries.Makes keys good) (fine : good value)
    (assigned : Entries.assign path value entries = some changed) : changed.Makes keys good := by
  apply rule.alter _ makes assigned
  intro origin reached next placed within
  split at placed
  · rename_i free
    cases placed
    refine rule.append within free.2 ?_
    rwa [Node.toValue]
  · cases placed

theorem throughHeader {act : Entries → Option Entries} {path : List String}
    (acts : ∀ reached next, act reached = some next → reached.Makes keys good → next.Makes keys good)
    (makes : entries.Makes keys good)
    (altered : Entries.throughHeader act path entries = some changed) : changed.Makes keys good :=
  rule.alter (fun _ => acts) makes altered

theorem openTable {path : KeyPath} (makes : entries.Makes keys good)
    (opened : Entries.openTable path entries = some changed) : changed.Makes keys good := by
  apply rule.throughHeader _ makes opened
  intro reached next placed within
  split at placed
  · rename_i absent
    cases placed
    exact rule.append within absent (rule.table_node_iff.mpr rule.empty)
  · -- A table that headers passed through is written again at the place of its own header.
    rename_i inner found
    cases placed
    have inside := rule.table_node_iff.mp (lookup within found)
    exact rule.move within (rule.table_node_iff.mpr inside)
  · cases placed

theorem openElement {path : KeyPath} (makes : entries.Makes keys good)
    (opened : Entries.openElement path entries = some changed) : changed.Makes keys good := by
  apply rule.throughHeader _ makes opened
  intro reached next placed within
  split at placed
  · rename_i absent
    cases placed
    apply rule.append within absent
    rw [rule.elements_node_iff, List.forall_mem_singleton]
    exact rule.empty
  · rename_i tables found
    cases placed
    have inside := rule.elements_node_iff.mp (lookup within found)
    apply rule.put within
    rw [rule.elements_node_iff, List.forall_mem_append, List.forall_mem_singleton]
    exact ⟨inside, rule.empty⟩
  · cases placed

theorem take {draft next : Draft} {statement : Statement} (makes : draft.root.Makes keys good)
    (fine : statement.Carries good) (taken : draft.take statement = some next) :
    next.root.Makes keys good := by
  cases statement with
  | header path =>
      obtain ⟨root, opened, same⟩ := Option.bind_eq_some_iff.mp taken
      cases same
      exact rule.openTable makes opened
  | element path =>
      obtain ⟨root, opened, same⟩ := Option.bind_eq_some_iff.mp taken
      cases same
      exact rule.openElement makes opened
  | entry path value =>
      obtain ⟨root, assigned, same⟩ := Option.bind_eq_some_iff.mp taken
      cases same
      exact rule.throughHeader (fun _ _ placed within => rule.assign within fine placed) makes assigned

theorem scanned : Scan.Yields (Scan.value Scan.nesting) good := by
  apply Scan.value_good
  · intro value plain
    exact rule.atomic plain
  · intro items fine
    exact rule.array_iff.mpr fine
  · intro pairs entries fine assigned
    rw [rule.entryValues_iff]
    exact foldlM_keeps (Makes keys good) (fun _ _ _ makes fine placed => rule.assign makes fine placed)
      rule.empty fine assigned

theorem document {text : List Char} {entries : List (String × Value)}
    (read : Document.ofText text = some entries) : good (.table entries) := by
  obtain ⟨statements, scanned, read⟩ := Option.bind_eq_some_iff.mp read
  obtain ⟨draft, taken, same⟩ := Option.bind_eq_some_iff.mp read
  cases same
  rw [rule.entryValues_iff]
  exact foldlM_keeps (·.root.Makes keys good) (fun _ _ _ => rule.take) rule.empty
    (Statement.ofText_good rule.scanned scanned) taken

theorem value {entries : List (String × Value)} {name : String} {value : Value}
    (fine : good (.table entries)) (found : entries.lookup name = some value) : good value := by
  obtain ⟨before, after, split, _⟩ := List.lookup_eq_some_iff.mp found
  exact (rule.table_iff.mp fine).2 (name, value) (split ▸ List.mem_append_cons_self)

end Hereditary

end Trees

/-- Every integer in the value is a signed word. -/
inductive Value.Signed : Value → Prop where
  | string (text : String) : Signed (.string text)
  | integer {value : Int} : -0x8000000000000000 ≤ value → value < 0x8000000000000000 →
      Signed (.integer value)
  | float (value : Decimal.Binary) : Signed (.float value)
  | boolean (value : Bool) : Signed (.boolean value)
  | dateTime : Signed .dateTime
  | array {items : List Value} : (∀ item ∈ items, Signed item) → Signed (.array items)
  | table {entries : List (String × Value)} : (∀ entry ∈ entries, Signed entry.2) →
      Signed (.table entries)

theorem signed_hereditary : Hereditary (fun _ => True) Value.Signed where
  initial := trivial
  added _ _ := trivial
  moved _ := trivial
  atomic plain := by cases plain <;> constructor <;> assumption
  array_iff := by
    intro items
    constructor
    · rintro ⟨⟩
      assumption
    · exact .array
  table_iff := by
    intro entries
    constructor
    · rintro ⟨⟩
      exact ⟨trivial, by assumption⟩
    · exact fun ⟨_, fine⟩ => .table fine

/-- No table in the value has a key twice. -/
inductive Value.Distinct : Value → Prop where
  | string (text : String) : Distinct (.string text)
  | integer (value : Int) : Distinct (.integer value)
  | float (value : Decimal.Binary) : Distinct (.float value)
  | boolean (value : Bool) : Distinct (.boolean value)
  | dateTime : Distinct .dateTime
  | array {items : List Value} : (∀ item ∈ items, Distinct item) → Distinct (.array items)
  | table {entries : List (String × Value)} : (entries.map Prod.fst).Nodup →
      (∀ entry ∈ entries, Distinct entry.2) → Distinct (.table entries)

theorem distinct_hereditary : Hereditary List.Nodup Value.Distinct where
  initial := List.nodup_nil
  added distinct absent := List.nodup_append_comm.mpr (List.nodup_cons.mpr ⟨absent, distinct⟩)
  moved distinct := List.nodup_append_comm.mpr
    (List.nodup_cons.mpr ⟨distinct.not_mem_erase, distinct.erase _⟩)
  atomic plain := by cases plain <;> constructor
  array_iff := by
    intro items
    constructor
    · rintro ⟨⟩
      assumption
    · exact .array
  table_iff := by
    intro entries
    constructor
    · intro distinct
      cases distinct with
      | table keys fine => exact ⟨keys, fine⟩
    · exact fun ⟨keys, fine⟩ => .table keys fine

end TwinView.Toml
