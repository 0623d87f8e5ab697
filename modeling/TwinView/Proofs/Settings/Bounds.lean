import TwinView.Proofs.Settings.Precedence
import TwinView.Proofs.Toml.Reader

/-!
Numbers of settings that come from a document. Each is the default or an integer of the document, in whichever form
the document gives it. If whatever reads documents gives only signed words for integers, then a size or a timeout
that is larger never comes from a document; and a size of zero is turned away once everything has been read.
-/

namespace TwinView.Settings

open Toml (Value)

/-- Every number of the settings is also a signed word. -/
structure Signed (settings : Settings) : Prop where
  size : settings.regionSize.toNat < 0x8000000000000000
  timeout : ∀ millis, settings.timeoutMillis = some millis → millis.toNat < 0x8000000000000000

theorem default_signed : Settings.default.Signed := by
  constructor
  · decide
  · rintro millis ⟨⟩

theorem of_map_ok {ε α β : Type} {result : Except ε α} {f : α → β} {value : β}
    (mapped : result.map f = .ok value) : ∃ inner, result = .ok inner ∧ f inner = value := by
  cases result with
  | error fault => cases mapped
  | ok inner => exact ⟨inner, rfl, Except.ok.inj mapped⟩

theorem wordOfValue_signed {expected : String} {value : Value} {word : UInt64} (signed : value.Signed)
    (read : wordOfValue expected value = .ok word) : word.toNat < 0x8000000000000000 := by
  cases signed with
  | integer least most =>
      rw [wordOfValue] at read
      split at read
      · cases read
        rw [UInt64.toNat_ofNat']
        omega
      · cases read
  | _ => cases read

/-- A reader of one setting leaves settings signed if it is given a signed value. -/
def Reads (read : Settings → Value → Except Mismatch Settings) : Prop :=
  ∀ {settings value next}, settings.Signed → value.Signed → read settings value = .ok next → next.Signed

theorem readSize_signed : Reads readSize := by
  intro settings value next signed fine read
  obtain ⟨word, sized, rfl⟩ := of_map_ok read
  exact ⟨wordOfValue_signed fine sized, signed.timeout⟩

theorem readProfile_signed : Reads readProfile := by
  intro settings value next signed fine read
  obtain ⟨profile, named, rfl⟩ := of_map_ok read
  exact ⟨signed.size, signed.timeout⟩

theorem readTimeout_signed : Reads readTimeout := by
  intro settings value next signed fine read
  obtain ⟨word, counted, rfl⟩ := of_map_ok read
  constructor
  · exact signed.size
  · rintro _ ⟨⟩
    exact wordOfValue_signed fine counted

/-- A series of readings, each of which leaves the settings signed. -/
theorem foldlM_signed {α : Type} {read : Settings → α → Except Mismatch Settings} {items : List α}
    {settings next : Settings} (signed : settings.Signed)
    (reads : ∀ item ∈ items, ∀ settings next, settings.Signed → read settings item = .ok next → next.Signed)
    (done : items.foldlM read settings = .ok next) : next.Signed := by
  induction items generalizing settings with
  | nil =>
      cases done
      exact signed
  | cons item rest ih =>
      rw [List.foldlM_cons] at done
      rw [List.forall_mem_cons] at reads
      cases first : read settings item with
      | error mismatch =>
          rw [first] at done
          cases done
      | ok middle =>
          rw [first] at done
          exact ih (reads.1 settings middle signed first) reads.2 done

theorem readEntry_signed {settings next : Settings} {entry : String × Value} (signed : settings.Signed)
    (fine : entry.2.Signed) (read : settings.readEntry entry = .ok next) : next.Signed := by
  unfold readEntry at read
  split at read
  · exact readSize_signed signed fine read
  · exact readProfile_signed signed fine read
  · exact readTimeout_signed signed fine read
  · cases read
    exact signed

theorem readItems_signed {settings next : Settings} {items : List Value} (signed : settings.Signed)
    (fine : ∀ item ∈ items, item.Signed) (read : settings.readItems items = .ok next) : next.Signed := by
  have readers : ∀ reader ∈ positions, Reads reader := by
    simp only [positions, List.forall_mem_cons]
    exact ⟨readSize_signed, readProfile_signed, readTimeout_signed, List.forall_mem_nil _⟩
  apply foldlM_signed signed _ read
  rintro ⟨reader, item⟩ member settings next signed done
  have places := List.of_mem_zip member
  exact readers reader places.1 signed (fine item places.2) done

theorem ofValue_signed {value : Value} {settings : Settings} (fine : value.Signed)
    (read : ofValue value = .ok settings) : settings.Signed := by
  cases fine with
  | table entries =>
      apply foldlM_signed default_signed _ read
      intro entry member settings next signed done
      exact readEntry_signed signed (entries entry member) done
  | array items => exact readItems_signed default_signed items read
  | dateTime =>
      cases read
      exact default_signed
  | _ => cases read

theorem ofEntries_signed {entries : List (String × Value)} {settings : Settings}
    (fine : ∀ entry ∈ entries, entry.2.Signed) (read : ofEntries entries = .ok settings) : settings.Signed := by
  unfold ofEntries at read
  split at read
  · cases read
    exact default_signed
  · rename_i value found
    obtain ⟨before, after, split, _⟩ := List.lookup_eq_some_iff.mp found
    exact ofValue_signed (fine ("jit", value) (split ▸ List.mem_append_cons_self)) read

theorem ofTextBy_signed {reader : Toml.Reader} (integers : reader.IsSigned) {text : List Char}
    {settings : Settings} (read : ofTextBy reader text = .ok settings) :
    settings.Signed ∧ settings.regionSize ≠ 0 := by
  unfold ofTextBy at read
  split at read
  · cases read
  · rename_i entries parsed
    split at read
    · cases read
    · rename_i found understood
      obtain rfl := eq_of_checked read
      have sized := checked_ok_iff.mp ⟨_, read⟩
      have fine := (Toml.signed_hereditary.table_iff.mp (integers parsed)).2
      exact ⟨ofEntries_signed fine understood, sized⟩

end TwinView.Settings
