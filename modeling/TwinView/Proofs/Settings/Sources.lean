import TwinView.Proofs.Settings.KnownKeys
import TwinView.Settings.Overrides

/-!
The two sources of settings agree. Any choice of settings can be written as a document, its lines in any order, or
given by variables, with blanks around the values and profiles in letters of either case. Both ways give the default
settings with exactly the chosen ones replaced. Of what reads the document only this is used: that one table with a
plain line for each key is read as this table.
-/

namespace TwinView

namespace Settings

/-- A count that the integers of a document can hold. -/
structure Count where
  value : UInt64
  small : value.toNat < 0x8000000000000000

/-- Settings to choose. Those left open keep their defaults. -/
structure Choice where
  size : Option Count
  profile : Option Profile
  timeout : Option Count
  positive : ∀ count, size = some count → count.value ≠ 0

inductive Assignment where
  | size (count : Count)
  | profile (chosen : Profile)
  | timeout (count : Count)

def keyword : Profile → String
  | .deferred => "deferred"
  | .immediate => "immediate"

namespace Assignment

def key : Assignment → String
  | .size _ => "region_size"
  | .profile _ => "profile"
  | .timeout _ => "activation_timeout_ms"

def content : Assignment → List Char
  | .size count => Nat.toDigits 10 count.value.toNat
  | .profile chosen => '"' :: ((keyword chosen).toList ++ ['"'])
  | .timeout count => Nat.toDigits 10 count.value.toNat

def line (assignment : Assignment) : List Char :=
  assignment.key.toList ++ " = ".toList ++ assignment.content

def apply (settings : Settings) : Assignment → Settings
  | .size count => settings.resized count.value
  | .profile chosen => settings.profiled chosen
  | .timeout count => settings.timed count.value

end Assignment

/-- The table of settings with one assignment on each line. -/
def document (closed : Bool) (assignments : List Assignment) : List Char :=
  "[jit]".toList ++ Toml.following closed (assignments.map Assignment.line)

namespace Choice

def assignments (choice : Choice) : List Assignment :=
  choice.size.toList.map .size ++ choice.profile.toList.map .profile ++
    choice.timeout.toList.map .timeout

def settings (choice : Choice) : Settings where
  regionSize := (choice.size.map Count.value).getD Settings.default.regionSize
  profile := choice.profile.getD Settings.default.profile
  timeoutMillis := (choice.timeout.map Count.value).or Settings.default.timeoutMillis

/-- The variables hold what is chosen, and those for what is left open are not set. -/
structure Variables (choice : Choice) (lookup : String → Option String) : Prop where
  size : Option.Rel (fun count text => Text.Padded (Nat.toDigits 10 count.value.toNat) text.toList)
    choice.size (lookup sizeVariable)
  profile : Option.Rel (fun profile text => ∃ body : List Char,
    body.map Char.toLower = (keyword profile).toList ∧ Text.Padded body text.toList)
    choice.profile (lookup profileVariable)
  timeout : Option.Rel (fun count text => Text.Padded (Nat.toDigits 10 count.value.toNat) text.toList)
    choice.timeout (lookup timeoutVariable)

end Choice

namespace Assignment

def name : Assignment → Toml.BareName
  | .size _ => ⟨"region_size", by decide, by decide⟩
  | .profile _ => ⟨"profile", by decide, by decide⟩
  | .timeout _ => ⟨"activation_timeout_ms", by decide, by decide⟩

def plain : Profile → Toml.PlainText
  | .deferred => ⟨"deferred", by decide, by decide⟩
  | .immediate => ⟨"immediate", by decide, by decide⟩

def plainValue : Assignment → Toml.Plain
  | .size count => .number count.value.toNat count.small
  | .profile chosen => .string (plain chosen)
  | .timeout count => .number count.value.toNat count.small

theorem name_text (assignment : Assignment) : assignment.name.text = assignment.key := by
  cases assignment <;> rfl

theorem line_eq (assignment : Assignment) :
    assignment.line = assignment.name.text.toList ++ " = ".toList ++ assignment.plainValue.text := by
  rcases assignment with count | (_ | _) | count <;> rfl

theorem readEntry_eq (settings : Settings) (assignment : Assignment) :
    settings.readEntry (assignment.key, assignment.plainValue.value) = .ok (assignment.apply settings) := by
  rcases assignment with count | (_ | _) | count
  · show settings.readSize (.integer count.value.toNat) = _
    simp [readSize, wordOfValue, apply, Except.map]
  · rfl
  · rfl
  · show settings.readTimeout (.integer count.value.toNat) = _
    simp [readTimeout, wordOfValue, apply, Except.map]

theorem foldlM_readEntry (assignments : List Assignment) (settings : Settings) :
    (assignments.map fun assignment => (assignment.key, assignment.plainValue.value)).foldlM readEntry
        settings = .ok (assignments.foldl apply settings) := by
  induction assignments generalizing settings with
  | nil => rfl
  | cons assignment rest ih =>
      rw [List.map_cons, List.foldlM_cons, readEntry_eq]
      exact ih (assignment.apply settings)

end Assignment

def table : Toml.BareName := ⟨"jit", by decide, by decide⟩

theorem document_eq (closed : Bool) (assignments : List Assignment) :
    document closed assignments = Toml.tableText closed table
      (assignments.map fun assignment => (assignment.name, assignment.plainValue)) := by
  simp only [document, Toml.tableText, List.map_map, Function.comp_def, ← Assignment.line_eq]
  rfl

theorem ofTextBy_document {reader : Toml.Reader} (reads : reader.ReadsTables) (closed : Bool)
    {assignments : List Assignment} (distinct : (assignments.map Assignment.key).Nodup) :
    ofTextBy reader (document closed assignments) =
      (assignments.foldl Assignment.apply Settings.default).checked := by
  let lines := assignments.map fun assignment => (assignment.name, assignment.plainValue)
  have names : (lines.map (·.1.text)).Nodup := by
    simpa [lines, Function.comp_def, Assignment.name_text] using distinct
  have values : (lines.map fun line => (line.1.text, line.2.value)) =
      assignments.map fun assignment => (assignment.key, assignment.plainValue.value) := by
    simp [lines, Assignment.name_text]
  have read : reader (document closed assignments) = some [("jit", .table
      (assignments.map fun assignment => (assignment.key, assignment.plainValue.value)))] := by
    have given := reads closed table lines names
    rw [values] at given
    exact (congrArg reader (document_eq closed assignments)).trans given
  have entries : ofEntries [("jit", Toml.Value.table
      (assignments.map fun assignment => (assignment.key, assignment.plainValue.value)))] =
        .ok (assignments.foldl Assignment.apply Settings.default) := by
    rw [← Assignment.foldlM_readEntry]
    rfl
  simp only [ofTextBy_read read, entries]

namespace Choice

variable (choice : Choice)

theorem distinct_assignments : (choice.assignments.map Assignment.key).Nodup := by
  rcases choice with ⟨_ | size, _ | chosen, _ | timeout, positive⟩ <;>
    simp [assignments, Assignment.key]

theorem foldl_assignments :
    choice.assignments.foldl Assignment.apply Settings.default = choice.settings := by
  rcases choice with ⟨_ | size, _ | chosen, _ | timeout, positive⟩ <;> rfl

theorem checked_settings : choice.settings.checked = .ok choice.settings := by
  have sized : choice.settings.regionSize ≠ 0 := by
    rcases choice with ⟨_ | size, chosen, timeout, positive⟩
    · exact (by decide : defaultSize ≠ 0)
    · exact positive size rfl
  rw [checked, if_neg sized]

end Choice

/-- A variable that holds a value makes the assignment of it; one that is not set makes none. -/
theorem run_override {α β : Type} {lookup : String → Option String} {name : String} {given : Option α}
    {holds : α → String → Prop} (answer : Option.Rel holds given (lookup name))
    (decode : String → Except SettingsFault β) (place : Settings → β → Settings)
    (assigned : α → Assignment)
    (places : ∀ value text settings, holds value text →
      (decode text).map (place settings) = .ok ((assigned value).apply settings))
    (settings : Settings) (names : List String) :
    (override lookup name decode place settings).run names =
      .ok ((given.toList.map assigned).foldl Assignment.apply settings) (name :: names) := by
  generalize found : lookup name = text at answer
  cases answer with
  | none =>
      rw [override, found]
      rfl
  | @some value text spelled =>
      have placed := places value text settings spelled
      rw [override, found]
      cases decoded : decode text with
      | error fault =>
          rw [decoded] at placed
          cases placed
      | ok result =>
          rw [decoded] at placed
          have same : place settings result = (assigned value).apply settings := Except.ok.inj placed
          simp only [decoded]
          show EStateM.Result.ok (place settings result) _ = _
          rw [same]
          rfl

theorem sizeOfText_padded {count : Count} {text : String}
    (padded : Text.Padded (Nat.toDigits 10 count.value.toNat) text.toList) :
    sizeOfText text = .ok count.value := by
  rw [sizeOfText, Text.readWord_padded padded]

theorem millisOfText_padded {count : Count} {text : String}
    (padded : Text.Padded (Nat.toDigits 10 count.value.toNat) text.toList) :
    millisOfText text = .ok count.value := by
  rw [millisOfText, Text.readWord_padded padded]

theorem capital_bounds {c : Char} (capital : 'A' ≤ c ∧ c ≤ 'Z') : 65 ≤ c.toNat ∧ c.toNat ≤ 90 := by
  simpa [Char.le_def, UInt32.le_iff_toNat_le] using capital

theorem toLower_of_not_capital {c : Char} (small : ¬ ('A' ≤ c ∧ c ≤ 'Z')) : c.toLower = c :=
  dif_neg small

theorem lowerAscii_eq (c : Char) : Profile.lowerAscii c = c.toLower := by
  by_cases capital : 'A' ≤ c ∧ c ≤ 'Z'
  · have capitals : ∀ place < 26, Profile.lowerAscii (Char.ofNat (65 + place)) =
        (Char.ofNat (65 + place)).toLower := by decide
    have bounds := capital_bounds capital
    have same := capitals (c.toNat - 65) (by omega)
    rwa [Nat.add_sub_cancel' bounds.1, Char.ofNat_toNat] at same
  · rw [Profile.lowerAscii, if_neg capital, toLower_of_not_capital capital]

theorem isBlank_of_toLower {c : Char} (visible : Text.isBlank c.toLower = false) :
    Text.isBlank c = false := by
  by_cases capital : 'A' ≤ c ∧ c ≤ 'Z'
  · have bounds := capital_bounds capital
    exact Text.isBlank_of_visible (by omega) (by omega)
  · rwa [toLower_of_not_capital capital] at visible

theorem ofText_cased {profile : Profile} {body text : List Char}
    (cased : body.map Char.toLower = (keyword profile).toList) (padded : Text.Padded body text) :
    Profile.ofText text = .ok profile := by
  have visible : (keyword profile).toList.all (Text.isBlank · = false) = true := by
    cases profile <;> decide
  have solid : ∀ c ∈ body, Text.isBlank c = false := by
    intro c member
    have lower := List.all_eq_true.mp visible c.toLower (cased ▸ List.mem_map_of_mem member)
    exact isBlank_of_toLower (of_decide_eq_true lower)
  have canonical : Profile.canonical text = keyword profile := by
    rw [Profile.canonical, padded.trim_eq solid, funext lowerAscii_eq, cased, String.ofList_toList]
  rw [Profile.ofText, canonical]
  cases profile <;> rfl

namespace Choice

variable {choice : Choice} {lookup : String → Option String}

theorem Variables.overriddenBy_eq (held : choice.Variables lookup) :
    Settings.default.overriddenBy lookup = .ok choice.settings := by
  have sized := run_override held.size sizeOfText resized .size
    fun count text settings padded => by rw [sizeOfText_padded padded]; rfl
  have shaped := run_override held.profile (Profile.ofText ·.toList) profiled .profile
    fun chosen text settings ⟨body, cased, padded⟩ => by rw [ofText_cased cased padded]; rfl
  have limited := run_override held.timeout millisOfText timed .timeout
    fun count text settings padded => by rw [millisOfText_padded padded]; rfl
  have chosen := choice.foldl_assignments
  rw [assignments] at chosen
  have run : (overrideWith lookup Settings.default).run [] =
      .ok choice.settings [timeoutVariable, profileVariable, sizeVariable] := by
    simp only [overrideWith, EStateM.run_bind, sized, shaped, limited, ← List.foldl_append, chosen,
      choice.checked_settings]
    rfl
  rw [overriddenBy, run]

/-- Each line is an entry of a known name, so the order of the lines is lost in the settings. -/
theorem foldl_perm {lines : List Assignment} (order : lines.Perm choice.assignments) :
    lines.foldl Assignment.apply Settings.default = choice.settings := by
  have distinct : ((choice.assignments.map fun assignment =>
      (assignment.key, assignment.plainValue.value)).map Prod.fst).Nodup := by
    simpa [Function.comp_def] using choice.distinct_assignments
  have read := Assignment.foldlM_readEntry choice.assignments Settings.default
  have permuted := foldlM_perm (order.symm.map _) distinct read
  rw [Assignment.foldlM_readEntry, choice.foldl_assignments] at permuted
  exact Except.ok.inj permuted

theorem ofTextBy_perm {reader : Toml.Reader} (reads : reader.ReadsTables) (closed : Bool)
    {lines : List Assignment} (order : lines.Perm choice.assignments) :
    ofTextBy reader (document closed lines) = .ok choice.settings := by
  have distinct : (lines.map Assignment.key).Nodup :=
    (order.map Assignment.key).nodup_iff.mpr choice.distinct_assignments
  rw [ofTextBy_document reads closed distinct, foldl_perm order, choice.checked_settings]

end Choice

/-- Whatever is chosen, both sources give the default settings with that and nothing else replaced: the document,
whichever order its lines have, whether or not the last of them has a line end, and whatever reads it as a table
with these lines, and the variables, whichever blanks surround their values and whichever letters of a profile are
capitals. -/
theorem sources_agree {reader : Toml.Reader} (reads : reader.ReadsTables) (choice : Choice) :
    (∀ closed lines, lines.Perm choice.assignments →
        ofTextBy reader (document closed lines) = .ok choice.settings) ∧
      ∀ lookup, choice.Variables lookup → Settings.default.overriddenBy lookup = .ok choice.settings :=
  ⟨fun closed _ order => Choice.ofTextBy_perm reads closed order, fun _ held => held.overriddenBy_eq⟩

/-- The largest size that a document can give, with the profile on the line before it, and variables with blanks
that are not of ASCII. -/
theorem largest_size_from_both :
    let lines : List Assignment := [.profile .immediate, .size ⟨9223372036854775807, by decide⟩]
    let lookup : String → Option String := fun name =>
      if name = sizeVariable then some " 9223372036854775807\n"
      else if name = profileVariable then some "\u3000ImMEDiate\u00A0" else none
    document true lines =
        "[jit]\nprofile = \"immediate\"\nregion_size = 9223372036854775807\n".toList ∧
      ofText (document true lines) = .ok ⟨9223372036854775807, .immediate, none⟩ ∧
      Settings.default.overriddenBy lookup = .ok ⟨9223372036854775807, .immediate, none⟩ := by
  intro lines lookup
  let choice : Choice :=
    ⟨some ⟨9223372036854775807, by decide⟩, some .immediate, none, by rintro _ ⟨⟩; decide⟩
  have agree := sources_agree Toml.Document.readsTables choice
  have order : lines.Perm choice.assignments := .swap _ _ _
  have held : choice.Variables lookup := by
    constructor
    · exact .some ⟨[' '], ['\n'], by decide, by decide, by decide⟩
    · exact .some ⟨"ImMEDiate".toList, by decide, ['\u3000'], ['\u00A0'], by decide, by decide, by decide⟩
    · exact .none
  exact ⟨by decide +kernel, agree.1 true lines order, agree.2 lookup held⟩

end Settings

end TwinView
