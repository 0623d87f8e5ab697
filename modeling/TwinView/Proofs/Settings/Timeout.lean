import Mathlib.Order.Bounds.Basic
import TwinView.Settings.Basic

/-!
What becomes of a timeout that is put into the settings. They keep whole milliseconds, and no more of them than a
word can count, so a span comes back as the longest one that can be kept and is not longer than it was. Nobody
waits longer than asked for, and less than a millisecond is lost unless the span is beyond all that a word counts.
-/

namespace TwinView

namespace Span

/-- The length of a span in nanoseconds. -/
def inNanos (span : Span) : Nat := span.secs.toNat * 1000000000 + span.nanos

theorem inNanos_injective : Function.Injective inNanos := by
  rintro ⟨secs, nanos, below⟩ ⟨secs', nanos', below'⟩ same
  unfold inNanos at same
  dsimp only at same
  have seconds : secs = secs' := UInt64.toNat_inj.mp (by omega)
  have rest : nanos = nanos' := by omega
  subst seconds rest
  rfl

instance : PartialOrder Span := PartialOrder.lift inNanos inNanos_injective

theorem le_iff {span other : Span} : span ≤ other ↔ span.inNanos ≤ other.inNanos := Iff.rfl

/-- Nothing of the span is shorter than a millisecond. -/
def IsWhole (span : Span) : Prop := 1000000 ∣ span.inNanos

/-- As many milliseconds as a word can count. -/
def longest : Span := ofMillis (.ofNat (UInt64.size - 1))

theorem inNanos_ofMillis (millis : UInt64) : (ofMillis millis).inNanos = millis.toNat * 1000000 := by
  have seconds : (ofMillis millis).secs.toNat = millis.toNat / 1000 := UInt64.toNat_div millis 1000
  have rest : (ofMillis millis).nanos = millis.toNat % 1000 * 1000000 := rfl
  rw [inNanos, seconds, rest]
  omega

theorem inNanos_longest : longest.inNanos = (UInt64.size - 1) * 1000000 :=
  inNanos_ofMillis _

theorem wholeMillis_eq (span : Span) : span.wholeMillis = span.inNanos / 1000000 := by
  have below := span.nanos_lt
  unfold wholeMillis inNanos
  omega

end Span

namespace Settings

theorem wordMillis_toNat (span : Span) :
    (wordMillis span).toNat = min (span.inNanos / 1000000) (UInt64.size - 1) := by
  rw [wordMillis, span.wholeMillis_eq]
  apply UInt64.toNat_ofNat_of_lt'
  have positive : 0 < UInt64.size := by decide
  omega

/-- The span that the settings give back for one that was put into them. -/
def kept (span : Span) : Span := .ofMillis (wordMillis span)

section Kept

variable (span : Span)

theorem inNanos_kept :
    (kept span).inNanos = min (span.inNanos / 1000000) (UInt64.size - 1) * 1000000 := by
  rw [kept, Span.inNanos_ofMillis, wordMillis_toNat]

theorem kept_isWhole : (kept span).IsWhole :=
  ⟨(wordMillis span).toNat, by rw [kept, Span.inNanos_ofMillis, Nat.mul_comm]⟩

theorem kept_le : kept span ≤ span := by
  rw [Span.le_iff, inNanos_kept]
  exact (Nat.mul_le_mul_right _ (Nat.min_le_left _ _)).trans (Nat.div_mul_le_self _ _)

theorem kept_le_longest : kept span ≤ Span.longest := by
  rw [Span.le_iff, inNanos_kept, Span.inNanos_longest]
  exact Nat.mul_le_mul_right _ (Nat.min_le_right _ _)

theorem le_kept {other : Span} (whole : other.IsWhole) (shorter : other ≤ span) (counted : other ≤ .longest) :
    other ≤ kept span := by
  obtain ⟨millis, length⟩ := whole
  rw [Span.le_iff] at shorter counted ⊢
  rw [Span.inNanos_longest] at counted
  rw [inNanos_kept, length, Nat.mul_comm]
  apply Nat.mul_le_mul_right
  apply Nat.le_min.mpr
  constructor
  · exact (Nat.le_div_iff_mul_le (by decide)).mpr (by omega)
  · exact Nat.le_of_mul_le_mul_left (by omega) (show 0 < 1000000 by decide)

/-- The rule by which a span is kept; what else is said of kept spans follows from it. -/
theorem kept_isGreatest :
    IsGreatest {other | other.IsWhole ∧ other ≤ span ∧ other ≤ Span.longest} (kept span) := by
  constructor
  · exact ⟨kept_isWhole span, kept_le span, kept_le_longest span⟩
  · rintro other ⟨whole, shorter, counted⟩
    exact le_kept span whole shorter counted

theorem kept_of_whole (whole : span.IsWhole) (counted : span ≤ .longest) : kept span = span :=
  le_antisymm (kept_le span) (le_kept span whole le_rfl counted)

theorem kept_kept : kept (kept span) = kept span :=
  kept_of_whole (kept span) (kept_isWhole span) (kept_le_longest span)

theorem kept_mono {longer : Span} (le : span ≤ longer) : kept span ≤ kept longer :=
  le_kept longer (kept_isWhole span) ((kept_le span).trans le) (kept_le_longest span)

theorem lt_kept_add (counted : span ≤ .longest) : span.inNanos < (kept span).inNanos + 1000000 := by
  rw [Span.le_iff, Span.inNanos_longest] at counted
  have within : span.inNanos / 1000000 ≤ UInt64.size - 1 := Nat.div_le_of_le_mul (by omega)
  rw [inNanos_kept, Nat.min_eq_left within]
  omega

theorem timeout_bounded (settings : Settings) (timeout : Option Span) :
    (settings.bounded timeout).timeout = timeout.map kept := by
  cases timeout <;> rfl

end Kept

/-- A timeout is given back as the longest span of whole milliseconds that is not longer than it and that a word
can count; and putting it in changes nothing else. -/
theorem timeout_rounded_down (settings : Settings) (given : Span) :
    (∃ rounded, (settings.bounded (some given)).timeout = some rounded ∧
      IsGreatest {span | span.IsWhole ∧ span ≤ given ∧ span ≤ Span.longest} rounded ∧
      (given ≤ .longest → given.inNanos < rounded.inNanos + 1000000) ∧
      (given.IsWhole → given ≤ .longest → rounded = given) ∧
      (∀ other : Settings, (other.bounded (some rounded)).timeout = some rounded) ∧
      ∀ longer, given ≤ longer →
        ∃ more, (settings.bounded (some longer)).timeout = some more ∧ rounded ≤ more) ∧
    (settings.bounded none).timeout = none ∧
    ∀ timeout, (settings.bounded timeout).regionSize = settings.regionSize ∧
      (settings.bounded timeout).profile = settings.profile := by
  constructor
  · use kept given, timeout_bounded settings (some given), kept_isGreatest given, lt_kept_add given,
      kept_of_whole given
    constructor
    · intro other
      rw [timeout_bounded, Option.map_some, kept_kept]
    · intro longer le
      use kept longer, timeout_bounded settings (some longer), kept_mono given le
  · constructor
    · rfl
    · intro timeout
      exact ⟨rfl, rfl⟩

end Settings

end TwinView
