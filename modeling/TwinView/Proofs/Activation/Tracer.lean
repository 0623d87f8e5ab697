import Mathlib.Data.List.Infix
import TwinView.Activation.Tracer
import TwinView.Proofs.Text.Lines
import TwinView.Proofs.Text.Spelling

/-!
Which process a status text names. Every line has an answer of its own, and the first line that has one gives
that of the text, whether it is a number or not. So lines without the label can come and go, and so can all
lines after the first one with it.
-/

namespace TwinView.Activation

open Text

/-- Whether the line starts with the label. -/
def Labelled (line : List Char) : Prop := tracerLabel <+: line

theorem afterLabel_eq_some_iff {label line rest : List Char} :
    afterLabel label line = some rest ↔ line = label ++ rest := by
  induction label generalizing line with
  | nil => simp [afterLabel]
  | cons expected label ih =>
      cases line with
      | nil => simp [afterLabel]
      | cons c line => by_cases same : c = expected <;> simp [afterLabel, same, ih]

theorem afterLabel_eq_none_iff {line : List Char} :
    afterLabel tracerLabel line = none ↔ ¬ Labelled line := by
  rw [Option.eq_none_iff_forall_ne_some, Labelled, List.IsPrefix, not_exists]
  exact forall_congr' fun rest => not_congr (afterLabel_eq_some_iff.trans eq_comm)

/-- What a line says by itself: nothing without the label, and with it a number or that there is none. -/
def said (line : List Char) : Option (Option Nat) :=
  (afterLabel tracerLabel line).map fun rest => readCount UInt32.size (trim rest)

theorem said_eq_none_iff {line : List Char} : said line = none ↔ ¬ Labelled line := by
  rw [said, Option.map_eq_none_iff, afterLabel_eq_none_iff]

theorem findSome?_said_eq_none_iff {found : List (List Char)} :
    found.findSome? said = none ↔ ∀ line ∈ found, ¬ Labelled line := by
  rw [List.findSome?_eq_none_iff]
  exact forall₂_congr fun line _ => said_eq_none_iff

theorem afterLabel_snoc {label : List Char} {last : Char} (foreign : last ∉ label) (line : List Char) :
    afterLabel label (line ++ [last]) = (afterLabel label line).map (· ++ [last]) := by
  induction label generalizing line with
  | nil => rfl
  | cons expected label ih =>
      rw [List.mem_cons, not_or] at foreign
      cases line with
      | nil => simp [afterLabel, foreign.1]
      | cons c line => by_cases same : c = expected <;> simp [afterLabel, same, ih foreign.2]

/-- A return is a blank, so a line may keep the one at its end. -/
theorem said_returned (line : List Char) : said (line ++ ['\r']) = said line := by
  rw [said, afterLabel_snoc (by decide), Option.map_map, said]
  congr 1
  funext rest
  exact congrArg _ (trim_blank_end rest (by decide))

theorem tracingProcess_lined {status : List Char} {found : List (List Char)}
    (lined : Lined found status) : tracingProcess status = (found.findSome? said).join := by
  have gathered : found.findSome? said =
      (found.findSome? (afterLabel tracerLabel)).map fun rest =>
        readCount UInt32.size (trim rest) := List.map_findSome?.symm
  rw [gathered, tracingProcess, lined.lines_eq]
  cases found.findSome? (afterLabel tracerLabel) <;> rfl

theorem tracingProcess_iff {status : List Char} {process : Nat} :
    tracingProcess status = some process ↔
      ∃ before rest after body, Lined (before ++ (tracerLabel ++ rest) :: after) status ∧
        (∀ line ∈ before, ¬ Labelled line) ∧ Padded body rest ∧ Spells body process ∧
        process < UInt32.size := by
  constructor
  · intro named
    obtain ⟨rest, first, read⟩ := Option.bind_eq_some_iff.mp named
    obtain ⟨before, line, after, split, labelled, unlabelled⟩ := List.findSome?_eq_some_iff.mp first
    obtain ⟨body, padded, spelled, below⟩ := readCount_trim_iff.mp read
    rw [afterLabel_eq_some_iff.mp labelled] at split
    refine ⟨before, rest, after, body, lines_iff.mp split, ?_, padded, spelled, below⟩
    intro line member
    exact afterLabel_eq_none_iff.mp (unlabelled line member)
  · rintro ⟨before, rest, after, body, lined, unlabelled, padded, spelled, below⟩
    have read : said (tracerLabel ++ rest) = some (some process) := by
      rw [said, afterLabel_eq_some_iff.mpr rfl, Option.map_some,
        readCount_trim_iff.mpr ⟨body, padded, spelled, below⟩]
    have silent := findSome?_said_eq_none_iff.mpr unlabelled
    rw [tracingProcess_lined lined, List.findSome?_append, silent, Option.none_or, List.findSome?_cons,
      read]
    rfl

/-- Lines without the label, and lines behind one with it, decide nothing. -/
theorem tracingProcess_inserted {status other : List Char} {before inserted after : List (List Char)}
    (lined : Lined (before ++ after) status) (longer : Lined (before ++ inserted ++ after) other)
    (idle : (∀ line ∈ inserted, ¬ Labelled line) ∨ ∃ line ∈ before, Labelled line) :
    tracingProcess other = tracingProcess status := by
  rw [tracingProcess_lined lined, tracingProcess_lined longer]
  simp only [List.findSome?_append]
  rcases idle with unlabelled | ⟨line, member, labelled⟩
  · rw [findSome?_said_eq_none_iff.mpr unlabelled, Option.or_none]
  · -- The search has ended before it comes to where the two texts differ.
    have decided : before.findSome? said ≠ none := by
      intro none
      exact findSome?_said_eq_none_iff.mp none line member labelled
    obtain ⟨answer, first⟩ := Option.ne_none_iff_exists'.mp decided
    rw [first, Option.or_assoc, Option.some_or, Option.some_or]

theorem tracingProcess_feed (status : List Char) :
    tracingProcess (status ++ ['\n']) = tracingProcess status := by
  rw [tracingProcess_lined (lined_lines _), tracingProcess_lined (lined_lines status)]
  exact congrArg Option.join (findSome?_linesFrom_feed rfl said_returned [] status)

/-- The line of a status text that names a process. -/
def tracerLine (process : Nat) : List Char := tracerLabel ++ '\t' :: Nat.toDigits 10 process

theorem tracerLine_solid (process : Nat) : ∀ c ∈ tracerLine process, c ≠ '\n' ∧ c ≠ '\r' := by
  intro c member
  rcases List.mem_append.mp member with label | number
  · have solid : tracerLabel.all (fun c => c ≠ '\n' ∧ c ≠ '\r') = true := by decide
    exact of_decide_eq_true (List.all_eq_true.mp solid c label)
  · rcases List.mem_cons.mp number with rfl | digit
    · decide
    · have numeric := isDigit_toDigits process c digit
      constructor <;> rintro rfl <;> cases numeric

theorem tracingProcess_written {before ending : List Char} {process : Nat} (closed : Closed before)
    (unlabelled : ∀ line ∈ lines before, ¬ Labelled line) (below : process < UInt32.size)
    (ended : Ending ending) :
    tracingProcess (before ++ (tracerLine process ++ ending)) = some process := by
  have spelled : Spells (Nat.toDigits 10 process) process :=
    ⟨_, Or.inl rfl, Nat.toDigits_ne_nil, isDigit_toDigits process, Nat.ofDigitChars_ten_toDigits⟩
  have padded : Padded (Nat.toDigits 10 process) ('\t' :: Nat.toDigits 10 process) :=
    ⟨['\t'], [], by simp, by decide, rfl⟩
  have unbroken : '\n' ∉ tracerLine process :=
    fun feed => (tracerLine_solid process _ feed).1 rfl
  have bare : (tracerLine process).getLast? ≠ some '\r' :=
    fun back => (tracerLine_solid process _ (List.mem_of_getLast? back)).2 rfl
  obtain ⟨after, lined⟩ := ended.lined (List.cons_ne_nil _ _) unbroken bare
  have whole := (lined_lines before).append closed lined
  exact tracingProcess_iff.mpr ⟨_, _, after, _, whole, unlabelled, padded, spelled, below⟩

/-- A status text names a process exactly if the first of its lines with the label is the label and a count
below the size of a word, blanks around it aside. Lines without the label can be put in or taken out anywhere,
and any lines after one with it; the end of the last line does not matter either. Whatever comes before and
after, a process written on a line of its own is found if no line before has the label. -/
theorem first_label_names_tracer (status : List Char) :
    (∀ process, tracingProcess status = some process ↔
        ∃ before rest after body, Lined (before ++ (tracerLabel ++ rest) :: after) status ∧
          (∀ line ∈ before, ¬ Labelled line) ∧ Padded body rest ∧ Spells body process ∧
          process < UInt32.size) ∧
      (∀ other before inserted after, Lined (before ++ after) status →
        Lined (before ++ inserted ++ after) other →
        ((∀ line ∈ inserted, ¬ Labelled line) ∨ ∃ line ∈ before, Labelled line) →
        tracingProcess other = tracingProcess status) ∧
      tracingProcess (status ++ ['\n']) = tracingProcess status ∧
      (∀ process ending, Closed status → (∀ line ∈ lines status, ¬ Labelled line) →
        process < UInt32.size → Ending ending →
        tracingProcess (status ++ (tracerLine process ++ ending)) = some process) := by
  refine ⟨fun process => tracingProcess_iff, ?_, tracingProcess_feed status, ?_⟩
  · intro other before inserted after lined longer idle
    exact tracingProcess_inserted lined longer idle
  · intro process ending closed unlabelled below ended
    exact tracingProcess_written closed unlabelled below ended

/-- A later line is not tried where the first one has no number. -/
example : tracingProcess "Name: x\nTracerPid: none\nTracerPid: 7\n".toList = none := by decide

end TwinView.Activation
