import TwinView.Proofs.Settings.Flaws
import TwinView.Proofs.Toml.Reader

/-!
What the settings of a document depend on. An entry of the table sets one setting or nothing, or it cannot be read;
what the entries before it have set does not matter for that. So entries with other names can be taken out, the
first entry that cannot be read decides the error, and if there is none the entries with known names can change
places, since no name is there twice.
-/

namespace TwinView.Settings

open Toml (Value)

def isKnown (name : String) : Bool :=
  name = "region_size" ∨ name = "profile" ∨ name = "activation_timeout_ms"

def known (entries : List (String × Value)) : List (String × Value) :=
  entries.filter (isKnown ·.1)

/-- The settings after the entry. One that cannot be read leaves them alone. -/
def entered (settings : Settings) (entry : String × Value) : Settings :=
  match settings.readEntry entry with
  | .ok next => next
  | .error _ => settings

/-- All that an entry can do, to any settings. -/
inductive Reading : String × Value → Prop
  | unread {entry : String × Value} (mismatch : Mismatch) (flawed : Flawed entry mismatch) : Reading entry
  | size {value : Value} (size : UInt64) (counted : wordOfValue "usize" value = .ok size)
      (reads : ∀ settings : Settings,
        settings.readEntry ("region_size", value) = .ok (settings.resized size)) :
      Reading ("region_size", value)
  | profile {value : Value} (profile : Profile)
      (reads : ∀ settings : Settings,
        settings.readEntry ("profile", value) = .ok (settings.profiled profile)) :
      Reading ("profile", value)
  | timeout {value : Value} (millis : UInt64)
      (reads : ∀ settings : Settings,
        settings.readEntry ("activation_timeout_ms", value) = .ok (settings.timed millis)) :
      Reading ("activation_timeout_ms", value)
  | foreign {entry : String × Value} (name : isKnown entry.1 = false)
      (reads : ∀ settings : Settings, settings.readEntry entry = .ok settings) : Reading entry

theorem map_cases {α : Type} (result : Except Mismatch α) (act : Settings → α → Settings) :
    (∃ mismatch, result = .error mismatch) ∨
      ∃ given, result = .ok given ∧ ∀ settings, result.map (act settings) = .ok (act settings given) := by
  cases result with
  | error mismatch => exact Or.inl ⟨mismatch, rfl⟩
  | ok given => exact Or.inr ⟨given, rfl, fun _ => rfl⟩

theorem reading (entry : String × Value) : Reading entry := by
  obtain ⟨name, value⟩ := entry
  by_cases size : name = "region_size"
  · subst size
    rcases map_cases (wordOfValue "usize" value) resized with ⟨mismatch, failed⟩ | ⟨size, counted, reads⟩
    · exact .unread mismatch (.size (wordOfValue_error_iff.mp failed))
    · exact .size size counted reads
  by_cases profile : name = "profile"
  · subst profile
    rcases map_cases (profileOfValue value) profiled with ⟨mismatch, failed⟩ | ⟨profile, _, reads⟩
    · exact .unread mismatch (.profile (profileOfValue_error_iff.mp failed))
    · exact .profile profile reads
  by_cases timeout : name = "activation_timeout_ms"
  · subst timeout
    rcases map_cases (wordOfValue "u64" value) timed with ⟨mismatch, failed⟩ | ⟨millis, _, reads⟩
    · exact .unread mismatch (.timeout (wordOfValue_error_iff.mp failed))
    · exact .timeout millis reads
  · apply Reading.foreign
    · simp [isKnown, size, profile, timeout]
    · intro settings
      simp [readEntry, size, profile, timeout]

theorem Flawed.known {entry : String × Value} {mismatch : Mismatch} (flawed : Flawed entry mismatch) :
    isKnown entry.1 = true := by
  cases flawed <;> rfl

theorem readEntry_foreign {entry : String × Value} (name : isKnown entry.1 = false)
    (settings : Settings) : settings.readEntry entry = .ok settings := by
  cases reading entry with
  | unread _ flawed => cases flawed.known.symm.trans name
  | size | profile | timeout => cases name
  | foreign _ reads => exact reads settings

theorem foldlM_known (entries : List (String × Value)) (settings : Settings) :
    (known entries).foldlM readEntry settings = entries.foldlM readEntry settings := by
  induction entries generalizing settings with
  | nil => rfl
  | cons entry rest ih =>
      rw [known, List.foldlM_cons]
      cases name : isKnown entry.1 with
      | true =>
          rw [List.filter_cons, if_pos name, List.foldlM_cons]
          exact congrArg _ (funext ih)
      | false =>
          rw [List.filter_cons, if_neg (Bool.eq_false_iff.mp name), readEntry_foreign name]
          exact ih settings

theorem foldlM_readable {entries : List (String × Value)} (readable : ∀ entry ∈ entries, Readable entry)
    (settings : Settings) : entries.foldlM readEntry settings = .ok (entries.foldl entered settings) := by
  induction entries generalizing settings with
  | nil => rfl
  | cons entry rest ih =>
      rw [List.forall_mem_cons] at readable
      obtain ⟨next, read⟩ := readable.1.reads settings
      rw [List.foldlM_cons, List.foldl_cons, entered, read]
      exact ih readable.2 next

theorem foldlM_flawed {before after : List (String × Value)} {entry : String × Value} {mismatch : Mismatch}
    (readable : ∀ earlier ∈ before, Readable earlier) (flawed : Flawed entry mismatch) (settings : Settings) :
    (before ++ entry :: after).foldlM readEntry settings = .error mismatch := by
  rw [List.foldlM_append, foldlM_readable readable]
  show (entry :: after).foldlM readEntry _ = _
  rw [List.foldlM_cons, flawed.reads]
  rfl

/-- Either all entries can be read or one of them is the first that cannot. -/
theorem readable_or_first (entries : List (String × Value)) :
    (∀ entry ∈ entries, Readable entry) ∨
      ∃ before entry after mismatch, entries = before ++ entry :: after ∧
        (∀ earlier ∈ before, Readable earlier) ∧ Flawed entry mismatch := by
  induction entries with
  | nil => exact Or.inl (List.forall_mem_nil _)
  | cons entry rest ih =>
      by_cases flawed : ∃ mismatch, Flawed entry mismatch
      · obtain ⟨mismatch, flawed⟩ := flawed
        exact Or.inr ⟨[], entry, rest, mismatch, rfl, List.forall_mem_nil _, flawed⟩
      have readable : Readable entry := not_exists.mp flawed
      rcases ih with all | ⟨before, bad, after, mismatch, rfl, earlier, flawed⟩
      · exact Or.inl (List.forall_mem_cons.mpr ⟨readable, all⟩)
      · exact Or.inr ⟨entry :: before, bad, after, mismatch, rfl,
          List.forall_mem_cons.mpr ⟨readable, earlier⟩, flawed⟩

theorem foldlM_ok_iff {entries : List (String × Value)} {settings next : Settings} :
    entries.foldlM readEntry settings = .ok next ↔
      (∀ entry ∈ entries, Readable entry) ∧ entries.foldl entered settings = next := by
  constructor
  · intro read
    rcases readable_or_first entries with readable | ⟨before, bad, after, mismatch, rfl, earlier, flawed⟩
    · rw [foldlM_readable readable] at read
      exact ⟨readable, Except.ok.inj read⟩
    · cases (foldlM_flawed earlier flawed settings).symm.trans read
  · rintro ⟨readable, rfl⟩
    exact foldlM_readable readable settings

theorem foldlM_error_iff {entries : List (String × Value)} {settings : Settings} {mismatch : Mismatch} :
    entries.foldlM readEntry settings = .error mismatch ↔
      ∃ before entry after, entries = before ++ entry :: after ∧
        (∀ earlier ∈ before, Readable earlier) ∧ Flawed entry mismatch := by
  constructor
  · intro failed
    rcases readable_or_first entries with readable | ⟨before, bad, after, other, rfl, earlier, flawed⟩
    · cases (foldlM_readable readable settings).symm.trans failed
    · cases (foldlM_flawed earlier flawed settings).symm.trans failed
      exact ⟨before, bad, after, rfl, earlier, flawed⟩
  · rintro ⟨before, entry, after, rfl, readable, flawed⟩
    exact foldlM_flawed readable flawed settings

section Order

/-- Entries of different names set different settings. -/
theorem entered_comm {entry other : String × Value} (different : entry.1 ≠ other.1)
    (settings : Settings) :
    (settings.entered entry).entered other = (settings.entered other).entered entry := by
  cases reading entry with
  | unread _ flawed => simp only [entered, flawed.reads]
  | foreign _ reads => simp only [entered, reads]
  | size _ _ reads | profile _ reads | timeout _ reads =>
      cases reading other with
      | unread _ flawed => simp only [entered, reads, flawed.reads]
      | foreign _ again => simp only [entered, reads, again]
      | size _ _ again | profile _ again | timeout _ again =>
          -- The two set one field only if they have one name.
          first
          | exact absurd rfl different
          | simp only [entered, reads, again]
            rfl

theorem foldlM_perm {entries others : List (String × Value)} {settings next : Settings}
    (order : entries.Perm others) (distinct : (entries.map Prod.fst).Nodup)
    (read : entries.foldlM readEntry settings = .ok next) :
    others.foldlM readEntry settings = .ok next := by
  obtain ⟨readable, done⟩ := foldlM_ok_iff.mp read
  refine foldlM_ok_iff.mpr ⟨?_, ?_⟩
  · intro entry member
    exact readable entry (order.mem_iff.mpr member)
  · rw [← done]
    symm
    -- Entries of one name are one entry here, so only those of different names have to change places.
    apply order.foldl_eq'
    intro entry here other there settings
    by_cases same : entry.1 = other.1
    · rw [List.inj_on_of_nodup_map distinct here there same]
    · exact entered_comm same settings

end Order

section Zero

variable {settings : Settings}

theorem entered_size {entry : String × Value} (name : entry.1 ≠ "region_size") :
    (settings.entered entry).regionSize = settings.regionSize := by
  cases reading entry with
  | size => exact absurd rfl name
  | unread _ flawed => simp only [entered, flawed.reads]
  | foreign _ reads => simp only [entered, reads]
  | profile _ reads | timeout _ reads =>
      simp only [entered, reads]
      rfl

theorem foldl_size {entries : List (String × Value)} (absent : "region_size" ∉ entries.map Prod.fst) :
    (entries.foldl entered settings).regionSize = settings.regionSize := by
  induction entries generalizing settings with
  | nil => rfl
  | cons entry rest ih =>
      rw [List.map_cons, List.mem_cons, not_or] at absent
      rw [List.foldl_cons, ih absent.2, entered_size (Ne.symm absent.1)]

theorem wordOfValue_eq_zero_iff {expected : String} {value : Value} {word : UInt64}
    (signed : value.Signed) (read : wordOfValue expected value = .ok word) :
    word = 0 ↔ value = .integer 0 := by
  cases signed with
  | @integer number least most =>
      rw [wordOfValue] at read
      split at read
      · cases read
        rw [← UInt64.toNat_inj, UInt64.toNat_ofNat', Value.integer.injEq, UInt64.toNat_zero]
        omega
      · cases read
  | _ => cases read

theorem entered_size_eq_zero_iff {entry : String × Value} (name : entry.1 = "region_size")
    (signed : entry.2.Signed) (readable : Readable entry) :
    (settings.entered entry).regionSize = 0 ↔ ("region_size", .integer 0) = entry := by
  cases reading entry with
  | unread mismatch flawed => exact absurd flawed (readable mismatch)
  | size size counted reads =>
      simp only [entered, reads]
      show size = 0 ↔ _
      rw [wordOfValue_eq_zero_iff signed counted, Prod.mk.injEq, and_iff_right rfl, eq_comm]
  | profile | timeout => simp at name
  | foreign unknown => exact absurd (name ▸ unknown) (by decide)

theorem foldl_size_eq_zero_iff {entries : List (String × Value)} (positive : settings.regionSize ≠ 0)
    (distinct : (entries.map Prod.fst).Nodup) (signed : ∀ entry ∈ entries, entry.2.Signed)
    (readable : ∀ entry ∈ entries, Readable entry) :
    (entries.foldl entered settings).regionSize = 0 ↔ ("region_size", .integer 0) ∈ entries := by
  induction entries generalizing settings with
  | nil => simpa using positive
  | cons entry rest ih =>
      rw [List.map_cons, List.nodup_cons] at distinct
      rw [List.forall_mem_cons] at signed readable
      by_cases name : entry.1 = "region_size"
      · -- The one entry for the size: what comes after it has other names.
        have alone : ("region_size", Value.integer 0) ∉ rest :=
          fun member => distinct.1 (name ▸ List.mem_map_of_mem member)
        rw [List.foldl_cons, foldl_size (name ▸ distinct.1), List.mem_cons, or_iff_left alone]
        exact entered_size_eq_zero_iff name signed.1 readable.1
      · have apart : ("region_size", Value.integer 0) ≠ entry := fun same => name (same ▸ rfl)
        rw [List.foldl_cons, ih ((entered_size name).symm ▸ positive) distinct.2 signed.2 readable.2,
          List.mem_cons, or_iff_right apart]

end Zero

/-- Two documents that do not differ in what settings are read from: none at all, the same value, or two tables
with the same entries of known names. -/
inductive Alike (found others : List (String × Value)) : Prop
  | absent (missing : found.lookup "jit" = none) (too : others.lookup "jit" = none) : Alike found others
  | same {value : Value} (given : found.lookup "jit" = some value)
      (too : others.lookup "jit" = some value) : Alike found others
  | tables {entries kept : List (String × Value)} (given : found.lookup "jit" = some (.table entries))
      (too : others.lookup "jit" = some (.table kept)) (alike : known entries = known kept) :
      Alike found others

theorem ofEntries_table {found entries : List (String × Value)}
    (given : found.lookup "jit" = some (.table entries)) :
    ofEntries found = entries.foldlM readEntry Settings.default := by
  rw [ofEntries, given]
  rfl

theorem Alike.ofEntries_eq {found others : List (String × Value)} (alike : Alike found others) :
    ofEntries found = ofEntries others := by
  cases alike with
  | absent missing too => rw [ofEntries, ofEntries, missing, too]
  | same given too => rw [ofEntries, ofEntries, given, too]
  | tables given too alike =>
      rw [ofEntries_table given, ofEntries_table too, ← foldlM_known, alike, foldlM_known]

section Documents

variable {reader : Toml.Reader} {text other : List Char} {found others entries permuted : List (String × Value)}

theorem ofTextBy_read (read : reader text = some found) :
    ofTextBy reader text =
      match ofEntries found with
      | .error mismatch => .error (.badDocument mismatch.detail)
      | .ok settings => settings.checked := by
  rewrite [ofTextBy, read]
  rfl

theorem table_distinct (fine : (Value.table found).Distinct)
    (given : found.lookup "jit" = some (.table entries)) : (entries.map Prod.fst).Nodup :=
  (Toml.distinct_hereditary.table_iff.mp (Toml.distinct_hereditary.value fine given)).1

theorem table_signed (fine : (Value.table found).Signed)
    (given : found.lookup "jit" = some (.table entries)) : ∀ entry ∈ entries, entry.2.Signed :=
  (Toml.signed_hereditary.table_iff.mp (Toml.signed_hereditary.value fine given)).2

theorem ofTextBy_permuted (distinct : reader.IsDistinct) {settings : Settings} (read : reader text = some found)
    (too : reader other = some others) (given : found.lookup "jit" = some (.table entries))
    (instead : others.lookup "jit" = some (.table permuted)) (order : (known entries).Perm (known permuted))
    (good : ofTextBy reader text = .ok settings) : ofTextBy reader other = .ok settings := by
  have names : ((known entries).map Prod.fst).Nodup :=
    (table_distinct (distinct read) given).sublist (List.filter_sublist.map _)
  rw [ofTextBy_read read, ofEntries_table given, ← foldlM_known] at good
  rw [ofTextBy_read too, ofEntries_table instead, ← foldlM_known]
  cases done : (known entries).foldlM readEntry Settings.default with
  | error mismatch =>
      rw [done] at good
      cases good
  | ok next =>
      rw [done] at good
      rw [foldlM_perm order names done]
      exact good

theorem ofTextBy_zero_iff (signed : reader.IsSigned) (distinct : reader.IsDistinct)
    (read : reader text = some found) (given : found.lookup "jit" = some (.table entries)) :
    ofTextBy reader text = .error .zeroSize ↔
      (∀ entry ∈ entries, Readable entry) ∧ ("region_size", .integer 0) ∈ entries := by
  rw [ofTextBy_read read, ofEntries_table given]
  cases done : entries.foldlM readEntry Settings.default with
  | error mismatch =>
      obtain ⟨before, entry, after, split, -, bad⟩ := foldlM_error_iff.mp done
      constructor
      · intro zero
        cases zero
      · rintro ⟨readable, -⟩
        exact absurd bad (readable entry (split ▸ List.mem_append_cons_self) mismatch)
  | ok settings =>
      obtain ⟨readable, folded⟩ := foldlM_ok_iff.mp done
      have positive : Settings.default.regionSize ≠ 0 := by decide
      have names := table_distinct (distinct read) given
      show settings.checked = .error .zeroSize ↔ _
      rw [checked_zero_iff, and_iff_right readable, ← folded]
      exact foldl_size_eq_zero_iff positive names (table_signed (signed read) given) readable

/-- Whatever reads documents with signed words for integers and without a key twice: settings are read from the
value of one key, and if that is a table, from its entries of three names only, the result or the mismatch. Where
there is a result, the order of these entries does not matter either. Where there is none, the first entry of the
table that cannot be read decides; a size of zero is an error only if every entry can be read. -/
theorem only_known_keys_matter (signed : reader.IsSigned) (distinct : reader.IsDistinct)
    (read : reader text = some found) (too : reader other = some others) :
    (Alike found others → ofEntries found = ofEntries others ∧ ofTextBy reader text = ofTextBy reader other) ∧
      (∀ entries permuted settings, found.lookup "jit" = some (.table entries) →
        others.lookup "jit" = some (.table permuted) → (known entries).Perm (known permuted) →
        ofTextBy reader text = .ok settings → ofTextBy reader other = .ok settings) ∧
      ∀ entries, found.lookup "jit" = some (.table entries) →
        (∀ mismatch, ofEntries found = .error mismatch ↔
          ∃ before entry after, entries = before ++ entry :: after ∧
            (∀ earlier ∈ before, Readable earlier) ∧ Flawed entry mismatch) ∧
        (∀ mismatch, ofEntries found = .error mismatch →
          ofTextBy reader text = .error (.badDocument mismatch.detail)) ∧
        (ofTextBy reader text = .error .zeroSize ↔
          (∀ entry ∈ entries, Readable entry) ∧ ("region_size", .integer 0) ∈ entries) := by
  refine ⟨?_, ?_, ?_⟩
  · intro alike
    refine ⟨alike.ofEntries_eq, ?_⟩
    rw [ofTextBy_read read, ofTextBy_read too, alike.ofEntries_eq]
  · intro entries permuted settings given instead order good
    exact ofTextBy_permuted distinct read too given instead order good
  · intro entries given
    refine ⟨?_, ?_, ofTextBy_zero_iff signed distinct read given⟩
    · intro mismatch
      rw [ofEntries_table given]
      exact foldlM_error_iff
    · intro mismatch refused
      rw [ofTextBy_read read, refused]

end Documents

/-- The second table gives the same settings in another order, after a key that means nothing. -/
theorem foreign_key_passed_over :
    let text := "[jit]\nregion_size = 8\nprofile = \"immediate\"\n".toList
    let other := "[jit]\nsize = 0\nprofile = \"immediate\"\nregion_size = 8\n".toList
    ofText text = .ok ⟨8, .immediate, none⟩ ∧ ofText other = .ok ⟨8, .immediate, none⟩ := by
  intro text other
  let jit : Toml.BareName := ⟨"jit", by decide, by decide⟩
  let size : Toml.BareName × Toml.Plain := (⟨"region_size", by decide, by decide⟩, .number 8 (by decide))
  let profile : Toml.BareName × Toml.Plain :=
    (⟨"profile", by decide, by decide⟩, .string ⟨"immediate", by decide, by decide⟩)
  let foreign : Toml.BareName × Toml.Plain := (⟨"size", by decide, by decide⟩, .number 0 (by decide))
  have written : text = Toml.tableText true jit [size, profile] := by decide +kernel
  have instead : other = Toml.tableText true jit [foreign, profile, size] := by decide +kernel
  have read := Toml.Document.readsTables true jit [size, profile] (by decide)
  have too := Toml.Document.readsTables true jit [foreign, profile, size] (by decide)
  rw [← written] at read
  rw [← instead] at too
  have good : ofTextBy Toml.Document.ofText text = .ok ⟨8, .immediate, none⟩ := by
    rw [ofTextBy_read read]
    rfl
  have matters := only_known_keys_matter Toml.Document.isSigned Toml.Document.isDistinct read too
  rw [ofText, ofText]
  exact ⟨good, matters.2.1 _ _ _ rfl rfl (.swap _ _ _) good⟩

end TwinView.Settings
