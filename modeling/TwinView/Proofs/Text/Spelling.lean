import TwinView.Proofs.Text.Numeral

/-!
Which texts are numbers. The reader goes from digit to digit and gives up where the number leaves its bound.
All the same it accepts a text exactly if that is an optional plus sign with digits behind it and the number
that these spell is below the bound, however long the text is: a number only grows with further digits, so one
that leaves the bound never comes back. Trimming takes off blanks and no more.
-/

namespace TwinView.Text

/-- The text is the number in decimal, with any zeros in front and perhaps a plus sign before them. -/
def Spells (text : List Char) (value : Nat) : Prop :=
  ∃ digits, (text = digits ∨ text = '+' :: digits) ∧ digits ≠ [] ∧
    (∀ c ∈ digits, c.isDigit = true) ∧ Nat.ofDigitChars 10 digits 0 = value

theorem of_gatherDigits {bound total value : Nat} {digits : List Char}
    (gathered : gatherDigits bound total digits = some value) :
    (∀ c ∈ digits, c.isDigit = true) ∧ Nat.ofDigitChars 10 digits total = value ∧
      (digits ≠ [] → value < bound) := by
  -- On the digits, from any total, since each digit hands a new one on to the rest.
  induction digits generalizing total with
  | nil =>
      cases gathered
      exact ⟨List.forall_mem_nil _, Nat.ofDigitChars_nil, fun nonempty => absurd rfl nonempty⟩
  | cons c rest ih =>
      rw [gatherDigits] at gathered
      split at gathered
      next digit =>
        dsimp only at gathered
        split at gathered
        next within =>
          obtain ⟨numeric, spelled, below⟩ := ih gathered
          refine ⟨?_, ?_, ?_⟩
          · rintro d (_ | ⟨_, member⟩)
            · exact digit
            · exact numeric d member
          · rw [Nat.ofDigitChars_cons]
            exact spelled
          · intro _
            cases rest with
            | nil =>
                cases gathered
                exact within
            | cons => exact below (List.cons_ne_nil _ _)
        next => cases gathered
      next => cases gathered

theorem readDigits_iff {bound value : Nat} {digits : List Char} :
    readDigits bound digits = some value ↔
      digits ≠ [] ∧ (∀ c ∈ digits, c.isDigit = true) ∧ Nat.ofDigitChars 10 digits 0 = value ∧
        value < bound := by
  cases digits with
  | nil => simp [readDigits]
  | cons c rest =>
      constructor
      · intro read
        obtain ⟨numeric, spelled, below⟩ := of_gatherDigits read
        exact ⟨nofun, numeric, spelled, below nofun⟩
      · rintro ⟨-, numeric, rfl, below⟩
        exact gatherDigits_eq numeric below

theorem readCount_iff {bound value : Nat} {text : List Char} :
    readCount bound text = some value ↔ Spells text value ∧ value < bound := by
  by_cases signed : ∃ digits, text = '+' :: digits
  · obtain ⟨digits, rfl⟩ := signed
    rw [readCount, readDigits_iff]
    constructor
    · rintro ⟨nonempty, numeric, spelled, below⟩
      exact ⟨⟨digits, Or.inr rfl, nonempty, numeric, spelled⟩, below⟩
    · rintro ⟨⟨others, rfl | same, nonempty, numeric, spelled⟩, below⟩
      · -- The sign is no digit, so it cannot belong to the number.
        cases numeric '+' List.mem_cons_self
      · cases same
        exact ⟨nonempty, numeric, spelled, below⟩
  · have unsigned : ∀ digits, text = '+' :: digits → False := fun digits same => signed ⟨digits, same⟩
    rw [readCount, readDigits_iff]
    · constructor
      · rintro ⟨nonempty, numeric, spelled, below⟩
        exact ⟨⟨text, Or.inl rfl, nonempty, numeric, spelled⟩, below⟩
      · rintro ⟨⟨digits, rfl | same, nonempty, numeric, spelled⟩, below⟩
        · exact ⟨nonempty, numeric, spelled, below⟩
        · exact absurd ⟨digits, same⟩ signed
    · exact unsigned

theorem Spells.solid {text : List Char} {value : Nat} (spelled : Spells text value) :
    ∀ c ∈ text, isBlank c = false := by
  obtain ⟨digits, rfl | rfl, -, numeric, -⟩ := spelled
  · intro c member
    exact isBlank_digit (numeric c member)
  · rintro c (_ | ⟨_, member⟩)
    · decide
    · exact isBlank_digit (numeric c member)

theorem trim_padded (text : List Char) : Padded (trim text) text := by
  have front := List.takeWhile_append_dropWhile (p := isBlank) (l := text)
  have back := List.takeWhile_append_dropWhile (p := isBlank) (l := (trimStart text).reverse)
  refine ⟨text.takeWhile isBlank, ((trimStart text).reverse.takeWhile isBlank).reverse, ?_, ?_, ?_⟩
  · rw [List.append_assoc, trim, trimEnd, ← List.reverse_append, back, List.reverse_reverse]
    exact front.symm
  · exact List.all_takeWhile
  · rw [List.all_reverse]
    exact List.all_takeWhile

theorem trim_blank_end (text : List Char) {c : Char} (blank : isBlank c = true) :
    trim (text ++ [c]) = trim text := by
  rw [trim, trimStart, List.dropWhile_append]
  split
  next empty =>
    have none : text.dropWhile isBlank = [] := List.isEmpty_iff.mp empty
    simp [trim, trimStart, trimEnd, none, blank]
  next => simp [trim, trimStart, trimEnd, blank]

/-- A count is read from a text exactly if the text spells it with nothing but blanks around it. -/
theorem readCount_trim_iff {bound value : Nat} {text : List Char} :
    readCount bound (trim text) = some value ↔
      ∃ body, Padded body text ∧ Spells body value ∧ value < bound := by
  constructor
  · intro read
    exact ⟨trim text, trim_padded text, readCount_iff.mp read⟩
  · rintro ⟨body, padded, spelled, below⟩
    rw [padded.trim_eq spelled.solid]
    exact readCount_iff.mpr ⟨spelled, below⟩

theorem readWord_trim_iff {word : UInt64} {text : List Char} :
    readWord (trim text) = some word ↔ ∃ body, Padded body text ∧ Spells body word.toNat := by
  rw [readWord, Option.map_eq_some_iff]
  constructor
  · rintro ⟨value, read, rfl⟩
    obtain ⟨body, padded, spelled, below⟩ := readCount_trim_iff.mp read
    refine ⟨body, padded, ?_⟩
    rwa [UInt64.toNat_ofNat_of_lt' below]
  · rintro ⟨body, padded, spelled⟩
    exact ⟨word.toNat, readCount_trim_iff.mpr ⟨body, padded, spelled, word.toNat_lt⟩, UInt64.ofNat_toNat⟩

end TwinView.Text
