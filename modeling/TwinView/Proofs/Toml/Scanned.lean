import TwinView.Proofs.Toml.Tables

/-!
What a scan finds, whatever the text is. One rule for each way of putting scans together says what the result is
from what the parts find. So a property that values without parts have, and that arrays and inline tables have if
their parts do, belongs to every value that is read, at any depth, and to those of the statements of a document.
-/

namespace TwinView.Toml

/-- A value without parts, as a reader gives it: an integer is a signed word. -/
inductive Value.Atomic : Value → Prop where
  | string (text : String) : Atomic (.string text)
  | integer {value : Int} : -0x8000000000000000 ≤ value → value < 0x8000000000000000 →
      Atomic (.integer value)
  | float (value : Decimal.Binary) : Atomic (.float value)
  | boolean (value : Bool) : Atomic (.boolean value)
  | dateTime : Atomic .dateTime

/-- The value of an entry is good. Headers have none. -/
def Statement.Carries (good : Value → Prop) : Statement → Prop
  | .entry _ value => good value
  | .header _ | .element _ => True

namespace Scan

variable {α β : Type}

/-- Whatever the scan finds in any text is good. It may find nothing. -/
structure Yields (scan : Scan α) (good : α → Prop) : Prop where
  found : ∀ text result rest, StateT.run scan text = some (result, rest) → good result

section Rules

variable {good fine : α → Prop} {sound : β → Prop} {scan other : Scan α} {next : α → Scan β}

theorem Yields.done {result : α} (fine : good result) : Yields (pure result) good := by
  constructor
  rintro text _ _ ⟨⟩
  exact fine

/-- A repeated step gives good items where it gives none. -/
theorem Yields.stop : Yields (pure none) fun found => ∀ item ∈ found, good item := by
  apply Yields.done
  rintro _ ⟨⟩

theorem Yields.item {result : α} (fine : good result) :
    Yields (pure (some result)) fun found => ∀ item ∈ found, good item := by
  apply Yields.done
  rintro _ ⟨⟩
  exact fine

theorem Yields.refused : Yields failure good := by
  constructor
  rintro text result rest ⟨⟩

theorem Yields.bind (first : Yields scan good) (later : ∀ result, good result → Yields (next result) sound) :
    Yields (scan >>= next) sound := by
  constructor
  intro text result rest read
  rw [StateT.run_bind] at read
  obtain ⟨⟨value, middle⟩, taken, read⟩ := Option.bind_eq_some_iff.mp read
  exact (later value (first.found text value middle taken)).found middle result rest read

theorem Yields.weaken (first : Yields scan good) (enough : ∀ result, good result → fine result) :
    Yields scan fine := by
  constructor
  intro text result rest read
  exact enough result (first.found text result rest read)

/-- Where it does not matter what the first scan finds. -/
theorem Yields.after (later : ∀ result, Yields (next result) sound) : Yields (scan >>= next) sound :=
  have anything : Yields scan fun _ => True := ⟨fun _ _ _ _ => trivial⟩
  anything.bind fun result _ => later result

theorem Yields.orElse (first : Yields scan good) (second : Yields other good) :
    Yields (scan <|> other) good := by
  constructor
  intro text result rest read
  rw [run_orElse, Option.or_eq_some_iff] at read
  rcases read with read | ⟨_, read⟩
  · exact first.found text result rest read
  · exact second.found text result rest read

theorem Yields.collect {step : Scan (Option α)} (steps : Yields step fun found => ∀ item ∈ found, good item) :
    Yields (collect step) fun items => ∀ item ∈ items, good item := by
  have within (bound : List Char) : Yields (collectWithin step bound) fun items => ∀ item ∈ items, good item := by
    induction bound with
    | nil =>
        apply steps.bind
        rintro (_ | found) fine
        · exact .done (List.forall_mem_nil _)
        · exact .refused
    | cons c bound ih =>
        apply steps.bind
        rintro (_ | found) fine
        · exact .done (List.forall_mem_nil _)
        · apply ih.bind
          intro items others
          exact .done (List.forall_mem_cons.mpr ⟨fine found rfl, others⟩)
  exact .after within

theorem Yields.separated {mark : Char} (items : Yields scan good) :
    Yields (separated mark scan) fun found => ∀ item ∈ found, good item := by
  apply items.bind
  intro first fine
  apply Yields.bind
  · apply Yields.collect
    apply Yields.orElse
    · apply Yields.after
      intro _
      apply items.bind
      intro item fine
      exact .item fine
    · exact .stop
  · intro rest later
    exact .done (List.forall_mem_cons.mpr ⟨fine, later⟩)

end Rules

theorem inRange_atomic (value : Int) : Yields (inRange value) Value.Atomic := by
  unfold inRange
  split
  · rename_i bounds
    exact .done (.integer bounds.1 bounds.2)
  · exact .refused

theorem based_atomic (mark : List Char) (base : Nat) (accepts : Char → Bool) :
    Yields (based mark base accepts) Value.Atomic :=
  .after fun _ => .after fun _ => inRange_atomic _

theorem integer_atomic : Yields integer Value.Atomic := by
  apply Yields.orElse (based_atomic _ _ _)
  apply Yields.orElse (based_atomic _ _ _)
  apply Yields.orElse (based_atomic _ _ _)
  exact .after fun _ => .after fun _ => inRange_atomic _

theorem decimalFloat_atomic : Yields decimalFloat Value.Atomic := by
  apply Yields.after
  intro negative
  apply Yields.after
  intro whole
  apply Yields.after
  rintro ⟨places, power⟩
  dsimp only
  split
  · exact .refused
  · exact .done (.float _)

theorem float_atomic : Yields float Value.Atomic := by
  apply Yields.orElse decimalFloat_atomic
  apply Yields.after
  intro negative
  apply Yields.orElse
  · exact .after fun _ => .done (.float _)
  · exact .after fun _ => .done (.float _)

theorem dateTime_atomic : Yields dateTime Value.Atomic := by
  apply Yields.orElse
  · exact .after fun _ => .after fun _ => .done .dateTime
  · exact .after fun _ => .done .dateTime

theorem number_atomic : Yields number Value.Atomic :=
  .orElse dateTime_atomic (.orElse float_atomic integer_atomic)

theorem keyword_atomic (spelling : String) (value : Bool) :
    Yields (keyword spelling (.boolean value)) Value.Atomic :=
  .after fun _ => .done (.boolean value)

theorem atom_atomic : Yields atom Value.Atomic := by
  apply Yields.after
  intro first
  split
  · exact .after fun _ => .done (.string _)
  · exact .after fun _ => .done (.string _)
  · exact keyword_atomic "true" true
  · exact keyword_atomic "false" false
  · exact number_atomic

section Nested

variable {good : Value → Prop} {item : Scan Value}

theorem arrayOf_good (arrays : ∀ items, (∀ item ∈ items, good item) → good (.array items))
    (items : Yields item good) : Yields (arrayOf item) good := by
  apply Yields.after
  intro _
  apply Yields.bind (Yields.orElse (Yields.separated _) (.done (List.forall_mem_nil good)))
  · intro found fine
    have closing : Yields (do gap; char ']'; pure (.array found)) good :=
      .after fun _ => .after fun _ => .done (arrays found fine)
    dsimp only
    split
    · exact closing
    · exact .after fun _ => closing
  · apply Yields.after
    intro _
    apply items.bind
    intro value fine
    exact .after fun _ => .done fine

theorem assignment_good (items : Yields item good) :
    Yields (assignment item) fun pair => good pair.2 := by
  apply Yields.after
  intro path
  apply Yields.after
  intro _
  apply Yields.after
  intro _
  apply items.bind
  intro value fine
  exact .after fun _ => .done fine

/-- The entries that assignments make, if those can be taken one after the other. -/
def assigned (pairs : List (KeyPath × Value)) : Option Entries :=
  pairs.foldlM (fun entries (path, value) => Entries.assign path value entries) []

theorem inlineTableOf_good
    (tables : ∀ pairs entries, (∀ pair ∈ pairs, good pair.2) → assigned pairs = some entries →
      good (.table (Node.entryValues entries)))
    (items : Yields item good) : Yields (inlineTableOf item) good := by
  apply Yields.after
  intro _
  apply Yields.bind (Yields.orElse (assignment_good items).separated (.done (List.forall_mem_nil _)))
  intro pairs fine
  apply Yields.after
  intro _
  apply Yields.after
  intro _
  split
  · rename_i entries made
    exact .done (tables pairs entries fine made)
  · exact .refused

/-- One case for each depth, since a value is made of values that are nested less deeply. -/
theorem value_good (atoms : ∀ value, value.Atomic → good value)
    (arrays : ∀ items, (∀ item ∈ items, good item) → good (.array items))
    (tables : ∀ pairs entries, (∀ pair ∈ pairs, good pair.2) → assigned pairs = some entries →
      good (.table (Node.entryValues entries)))
    (depth : Nat) : Yields (value depth) good := by
  have plain : Yields atom good := atom_atomic.weaken atoms
  induction depth with
  | zero => exact plain
  | succ depth ih =>
      apply Yields.after
      intro first
      split
      · exact arrayOf_good arrays ih
      · exact inlineTableOf_good tables ih
      · exact plain

end Nested

section Statements

variable {good : Value → Prop}

theorem entry_good (values : Yields (value nesting) good) : Yields entry (Statement.Carries good) :=
  (assignment_good values).bind fun _ fine => .done fine

/-- Only an entry holds a value. -/
theorem heading_good : Yields (element <|> header) (Statement.Carries good) := by
  apply Yields.orElse
  · exact .after fun _ => .after fun _ => .after fun _ => .done trivial
  · exact .after fun _ => .after fun _ => .after fun _ => .done trivial

theorem line_good (values : Yields (value nesting) good) :
    Yields line fun found => ∀ statement ∈ found, statement.Carries good := by
  have ended {scan : Scan Statement} (statements : Yields scan (Statement.Carries good)) :
      Yields (do let statement ← scan; lineRest; pure (some statement))
        fun found => ∀ statement ∈ found, statement.Carries good := by
    apply statements.bind
    intro statement fine
    exact .after fun _ => .item fine
  apply Yields.after
  intro first
  split
  · exact .after fun _ => .stop
  · exact .after fun _ => .stop
  · exact .after fun _ => .after fun _ => .stop
  · exact ended heading_good
  · exact ended (entry_good values)

theorem statementLine_good (values : Yields (value nesting) good) :
    Yields statementLine fun found => ∀ line ∈ found, ∀ statement ∈ line, statement.Carries good := by
  apply Yields.after
  intro first
  split
  · exact .stop
  · apply (line_good values).bind
    intro line fine
    exact .after fun _ => .item fine

theorem document_good (values : Yields (value nesting) good) :
    Yields document fun statements => ∀ statement ∈ statements, statement.Carries good := by
  rw [document_eq]
  apply Yields.after
  intro _
  apply Yields.after
  intro _
  apply (statementLine_good values).collect.bind
  intro lines fine
  apply Yields.done
  intro statement member
  obtain ⟨line, present, same⟩ := List.mem_filterMap.mp member
  exact fine line present statement same

end Statements

end Scan

theorem Statement.ofText_good {good : Value → Prop} (values : Scan.Yields (Scan.value Scan.nesting) good)
    {text : List Char} {statements : List Statement} (scanned : Statement.ofText text = some statements) :
    ∀ statement ∈ statements, statement.Carries good := by
  unfold Statement.ofText Scan.whole at scanned
  split at scanned
  · rename_i found read
    cases scanned
    exact (Scan.document_good values).found text statements [] read
  · cases scanned

end TwinView.Toml
