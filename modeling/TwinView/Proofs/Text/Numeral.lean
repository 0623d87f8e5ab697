import TwinView.Text.Blank
import TwinView.Text.Count

/-!
Numbers as they are written in decimal, and what a reader makes of them: a number that is a word is read back
from its digits, whatever blanks stand around them.
-/

namespace TwinView.Text

theorem isDigit_toDigits (value : Nat) : ∀ c ∈ Nat.toDigits 10 value, c.isDigit = true := by
  intro c member
  exact Nat.isDigit_of_mem_toDigits (by decide) (by decide) member

/-- Only the number zero begins with a zero. -/
theorem head_toDigits {value : Nat} (positive : 0 < value) :
    (Nat.toDigits 10 value).head? ≠ some '0' := by
  induction value using Nat.strongRecOn with
  | ind value ih =>
      rcases Nat.lt_or_ge value 10 with single | more
      · rw [Nat.toDigits_of_lt_base single]
        simp [Nat.ne_of_gt positive]
      · have smaller := ih (value / 10) (by omega) (by omega)
        rw [Nat.toDigits_of_base_le (by decide) more]
        cases front : Nat.toDigits 10 (value / 10) with
        | nil => exact absurd front Nat.toDigits_ne_nil
        | cons c rest => rwa [front] at smaller

/-- A number is written as a single zero or begins with another digit. -/
theorem toDigits_cases (value : Nat) :
    Nat.toDigits 10 value = ['0'] ∨
      ∃ first rest, Nat.toDigits 10 value = first :: rest ∧ first.isDigit = true ∧ first ≠ '0' ∧
        ∀ c ∈ rest, c.isDigit = true := by
  have numeric := isDigit_toDigits value
  rcases Nat.eq_zero_or_pos value with rfl | positive
  · exact Or.inl (Nat.toDigits_zero 10)
  · have first := head_toDigits positive
    cases written : Nat.toDigits 10 value with
    | nil => exact absurd written Nat.toDigits_ne_nil
    | cons c rest =>
        rw [written] at first numeric
        have different : c ≠ '0' := fun same => first (congrArg some same)
        exact Or.inr ⟨c, rest, rfl, numeric c List.mem_cons_self, different,
          fun d member => numeric d (List.mem_cons_of_mem c member)⟩

theorem head_of_toDigits (value : Nat) :
    ∃ first rest, Nat.toDigits 10 value = first :: rest ∧ first.isDigit = true := by
  rcases toDigits_cases value with zero | ⟨first, rest, written, digit, -⟩
  · exact ⟨'0', [], zero, rfl⟩
  · exact ⟨first, rest, written, digit⟩

theorem le_ofDigitChars (digits : List Char) (total : Nat) :
    total ≤ Nat.ofDigitChars 10 digits total := by
  induction digits generalizing total with
  | nil => simp
  | cons c rest ih =>
      rw [Nat.ofDigitChars_cons]
      have step := ih (10 * total + (c.toNat - '0'.toNat))
      omega

/-- Gathering never gives up before the end: what has been read so far is no more than the whole. -/
theorem gatherDigits_eq {bound total : Nat} {digits : List Char}
    (numeric : ∀ c ∈ digits, c.isDigit = true)
    (below : Nat.ofDigitChars 10 digits total < bound) :
    gatherDigits bound total digits = some (Nat.ofDigitChars 10 digits total) := by
  induction digits generalizing total with
  | nil => simp [gatherDigits]
  | cons c rest ih =>
      rw [Nat.ofDigitChars_cons] at below ⊢
      have within : 10 * total + digitValue c < bound :=
        Nat.lt_of_le_of_lt (le_ofDigitChars rest _) below
      have digit := numeric c List.mem_cons_self
      simp only [gatherDigits, digit, within, if_true]
      exact ih (fun d member => numeric d (List.mem_cons_of_mem c member)) below

theorem readWord_toDigits (value : UInt64) :
    readWord (Nat.toDigits 10 value.toNat) = some value := by
  have numeric := isDigit_toDigits value.toNat
  have gathered : gatherDigits UInt64.size 0 (Nat.toDigits 10 value.toNat) = some value.toNat := by
    rw [gatherDigits_eq numeric] <;> rw [Nat.ofDigitChars_ten_toDigits]
    exact value.toNat_lt
  cases written : Nat.toDigits 10 value.toNat with
  | nil => exact absurd written Nat.toDigits_ne_nil
  | cons first rest =>
      rw [written] at numeric gathered
      have unsigned : ∀ digits, first :: rest = '+' :: digits → False := by
        rintro digits ⟨⟩
        cases numeric '+' List.mem_cons_self
      have counted : readCount UInt64.size (first :: rest) = some value.toNat := by
        rw [readCount]
        · exact gathered
        · exact unsigned
      rw [readWord, counted, Option.map_some, UInt64.ofNat_toNat]

/-- The characters between the blank and the last of ASCII leave a mark. -/
theorem isBlank_of_visible {c : Char} (above : 0x21 ≤ c.toNat) (below : c.toNat ≤ 0x7E) :
    isBlank c = false := by
  simp [isBlank, blankRanges]
  omega

theorem digit_bounds {c : Char} (digit : c.isDigit = true) : 0x30 ≤ c.toNat ∧ c.toNat ≤ 0x39 := by
  simpa [Char.isDigit, UInt32.le_iff_toNat_le] using digit

theorem isBlank_digit {c : Char} (digit : c.isDigit = true) : isBlank c = false := by
  have bounds := digit_bounds digit
  exact isBlank_of_visible (by omega) (by omega)

theorem dropWhile_solid {text : List Char} (solid : ∀ c ∈ text, isBlank c = false) :
    text.dropWhile isBlank = text := by
  cases text with
  | nil => rfl
  | cons c rest => simp [solid c List.mem_cons_self]

/-- The body with any blanks before and after it. -/
def Padded (body text : List Char) : Prop :=
  ∃ before after, text = before ++ body ++ after ∧ before.all isBlank = true ∧
    after.all isBlank = true

/-- Blanks around a body that has none are dropped, and nothing else. -/
theorem Padded.trim_eq {body text : List Char} (padded : Padded body text)
    (solid : ∀ c ∈ body, isBlank c = false) : trim text = body := by
  obtain ⟨before, after, rfl, front, back⟩ := padded
  rw [List.all_eq_true] at front back
  have started : trimStart (before ++ body ++ after) = (body ++ after).dropWhile isBlank := by
    rw [trimStart, List.append_assoc, List.dropWhile_append_of_pos front]
  have ended : ∀ text, trimEnd (text ++ after) = trimEnd text := by
    intro text
    have mirrored : ∀ c ∈ after.reverse, isBlank c = true :=
      fun c member => back c (List.mem_reverse.mp member)
    rw [trimEnd, List.reverse_append, List.dropWhile_append_of_pos mirrored, trimEnd]
  rw [trim, started]
  cases body with
  | nil =>
      have blank : (after ++ []).dropWhile isBlank = [] := List.dropWhile_append_of_pos back
      rw [List.nil_append, ← List.append_nil after, blank]
      rfl
  | cons c rest =>
      have kept : (c :: rest ++ after).dropWhile isBlank = c :: rest ++ after := by
        simp [solid c List.mem_cons_self]
      have mirrored : ∀ d ∈ (c :: rest).reverse, isBlank d = false :=
        fun d member => solid d (List.mem_reverse.mp member)
      rw [kept, ended, trimEnd, dropWhile_solid mirrored, List.reverse_reverse]

theorem readWord_padded {value : UInt64} {text : List Char}
    (padded : Padded (Nat.toDigits 10 value.toNat) text) : readWord (trim text) = some value := by
  have solid : ∀ c ∈ Nat.toDigits 10 value.toNat, isBlank c = false :=
    fun c member => isBlank_digit (isDigit_toDigits value.toNat c member)
  rw [padded.trim_eq solid, readWord_toDigits]

end TwinView.Text
