import TwinView.Settings.Document

/-!
Which entries settings cannot be read from, and what is said of them. A count is an integer that is not negative. A
profile is its name, or a table with that name as its only key and nothing in it. Entries of other names are never
looked at.
-/

namespace TwinView.Settings

open Toml (Value)

/-- The value is no count. -/
inductive NoCount (expected : String) : Value → Mismatch → Prop
  | kind {value : Value} (other : ∀ number, value ≠ .integer number) :
      NoCount expected value (.wrongKind value expected)
  | negative {number : Int} (below : number < 0) :
      NoCount expected (.integer number) (.outOfRange number expected)

def NamesProfile (name : String) : Prop := name = "deferred" ∨ name = "immediate"

/-- The value is no profile. -/
inductive NoProfile : Value → Mismatch → Prop
  | name {name : String} (unknown : ¬ NamesProfile name) : NoProfile (.string name) (.unknownVariant name)
  | variant {name : String} {content : Value} (unknown : ¬ NamesProfile name) :
      NoProfile (.table [(name, content)]) (.unknownVariant name)
  | content {name : String} {content : Value} (known : NamesProfile name) (noTable : content ≠ .table [])
      (noArray : content ≠ .array []) : NoProfile (.table [(name, content)]) .unfit
  | shape {value : Value} (noName : ∀ name, value ≠ .string name)
      (noVariant : ∀ entry, value ≠ .table [entry]) : NoProfile value .unfit

inductive Flawed : String × Value → Mismatch → Prop
  | size {value : Value} {mismatch : Mismatch} (no : NoCount "usize" value mismatch) :
      Flawed ("region_size", value) mismatch
  | profile {value : Value} {mismatch : Mismatch} (no : NoProfile value mismatch) :
      Flawed ("profile", value) mismatch
  | timeout {value : Value} {mismatch : Mismatch} (no : NoCount "u64" value mismatch) :
      Flawed ("activation_timeout_ms", value) mismatch

def Readable (entry : String × Value) : Prop := ∀ mismatch, ¬ Flawed entry mismatch

variable {value : Value} {mismatch : Mismatch}

theorem wordOfValue_error_iff {expected : String} :
    wordOfValue expected value = .error mismatch ↔ NoCount expected value mismatch := by
  constructor
  · intro failed
    unfold wordOfValue at failed
    split at failed
    · next number =>
        split at failed
        · cases failed
        · next below =>
            cases failed
            exact .negative (Int.not_le.mp below)
    · next other =>
        cases failed
        exact .kind other
  · intro no
    cases no with
    | kind other =>
        cases value with
        | integer number => exact absurd rfl (other number)
        | _ => rfl
    | negative below => rw [wordOfValue, if_neg (Int.not_le.mpr below)]

theorem profileOfName_error_iff {name : String} :
    profileOfName name = .error mismatch ↔ ¬ NamesProfile name ∧ mismatch = .unknownVariant name := by
  unfold profileOfName NamesProfile
  split
  · next deferred => simp [deferred]
  · next other =>
      split
      · next immediate => simp [immediate]
      · next neither => simp [other, neither, eq_comm]

theorem profileOfName_ok {name : String} (known : NamesProfile name) :
    ∃ profile, profileOfName name = .ok profile := by
  rcases known with rfl | rfl
  · exact ⟨.deferred, rfl⟩
  · exact ⟨.immediate, rfl⟩

theorem profileOfValue_filled {name : String} {content : Value} (known : NamesProfile name)
    (noTable : content ≠ .table []) (noArray : content ≠ .array []) :
    profileOfValue (.table [(name, content)]) = .error .unfit := by
  obtain ⟨profile, named⟩ := profileOfName_ok known
  rw [profileOfValue, named]
  cases content with
  | table entries =>
      cases entries with
      | nil => exact absurd rfl noTable
      | cons entry rest => rfl
  | array items =>
      cases items with
      | nil => exact absurd rfl noArray
      | cons item rest => rfl
  | _ => rfl

theorem profileOfValue_variant {name : String} {content : Value} :
    profileOfValue (.table [(name, content)]) = .error mismatch ↔
      NoProfile (.table [(name, content)]) mismatch := by
  constructor
  · intro failed
    by_cases known : NamesProfile name
    · obtain ⟨profile, named⟩ := profileOfName_ok known
      have filled : content ≠ .table [] ∧ content ≠ .array [] := by
        constructor <;> rintro rfl <;> rw [profileOfValue, named] at failed <;> cases failed
      rw [profileOfValue_filled known filled.1 filled.2] at failed
      cases failed
      exact .content known filled.1 filled.2
    · rw [profileOfValue, profileOfName_error_iff.mpr ⟨known, rfl⟩] at failed
      cases failed
      exact .variant known
  · intro no
    cases no with
    | variant unknown =>
        rw [profileOfValue, profileOfName_error_iff.mpr ⟨unknown, rfl⟩]
        rfl
    | content known noTable noArray => exact profileOfValue_filled known noTable noArray
    | shape noName noVariant => exact absurd rfl (noVariant _)

theorem profileOfValue_error_iff : profileOfValue value = .error mismatch ↔ NoProfile value mismatch := by
  by_cases named : ∃ name, value = .string name
  · obtain ⟨name, rfl⟩ := named
    rw [profileOfValue, profileOfName_error_iff]
    constructor
    · rintro ⟨unknown, rfl⟩
      exact .name unknown
    · intro no
      cases no with
      | name unknown => exact ⟨unknown, rfl⟩
      | shape noName => exact absurd rfl (noName name)
  by_cases variant : ∃ entry, value = .table [entry]
  · obtain ⟨⟨name, content⟩, rfl⟩ := variant
    exact profileOfValue_variant
  · have noName : ∀ name, value ≠ .string name := fun name same => named ⟨name, same⟩
    have noVariant : ∀ entry, value ≠ .table [entry] := fun entry same => variant ⟨entry, same⟩
    have refused : profileOfValue value = .error .unfit := by
      unfold profileOfValue
      split
      · next name => exact absurd rfl (noName name)
      · next name content => exact absurd rfl (noVariant _)
      · rfl
    rw [refused]
    constructor
    · rintro ⟨⟩
      exact .shape noName noVariant
    · intro no
      cases no with
      | name => exact absurd rfl (noName _)
      | variant | content => exact absurd rfl (noVariant _)
      | shape => rfl

theorem map_error_iff {α β : Type} {result : Except Mismatch α} {act : α → β} :
    result.map act = .error mismatch ↔ result = .error mismatch := by
  cases result <;> simp [Except.map]

/-- What cannot be read from an entry does not depend on the settings that it is read into. -/
theorem readEntry_error_iff {settings : Settings} {entry : String × Value} :
    settings.readEntry entry = .error mismatch ↔ Flawed entry mismatch := by
  constructor
  · intro failed
    unfold readEntry at failed
    split at failed
    · exact .size (wordOfValue_error_iff.mp (map_error_iff.mp failed))
    · exact .profile (profileOfValue_error_iff.mp (map_error_iff.mp failed))
    · exact .timeout (wordOfValue_error_iff.mp (map_error_iff.mp failed))
    · cases failed
  · intro flawed
    cases flawed with
    | size no => exact map_error_iff.mpr (wordOfValue_error_iff.mpr no)
    | profile no => exact map_error_iff.mpr (profileOfValue_error_iff.mpr no)
    | timeout no => exact map_error_iff.mpr (wordOfValue_error_iff.mpr no)

theorem Flawed.reads {entry : String × Value} (flawed : Flawed entry mismatch) (settings : Settings) :
    settings.readEntry entry = .error mismatch := readEntry_error_iff.mpr flawed

theorem Readable.reads {entry : String × Value} (readable : Readable entry) (settings : Settings) :
    ∃ next, settings.readEntry entry = .ok next := by
  cases read : settings.readEntry entry with
  | error mismatch => exact absurd (readEntry_error_iff.mp read) (readable mismatch)
  | ok next => exact ⟨next, rfl⟩

end TwinView.Settings
