import TwinView.Proofs.Memory.Range

/-!
Going from one view of a block to the other and back. The check of an address is one subtraction that may wrap
and one comparison. Where neither view goes past the last address, it accepts the addresses of the view and no
others, wherever the views lie, and no sum that follows it leaves the words. So each address of a view has one
counterpart, at the same offset of the other view, and the way back leads to the address itself.
-/

namespace TwinView

namespace ViewPair

/-- Neither view goes past the last address. -/
def Fits (views : ViewPair) : Prop :=
  ∀ view, (views.base view).toNat + views.size.toNat ≤ UInt64.size

def Contains (views : ViewPair) (view : View) (address : UInt64) : Prop :=
  (views.base view).toNat ≤ address.toNat ∧
    address.toNat < (views.base view).toNat + views.size.toNat

instance (views : ViewPair) (view : View) (address : UInt64) :
    Decidable (views.Contains view address) :=
  inferInstanceAs (Decidable (_ ∧ _))

/-- No address belongs to both views. -/
def Apart (views : ViewPair) : Prop :=
  ∀ address view, views.Contains view address → ¬ views.Contains view.other address

variable {views : ViewPair} {view : View} {address : UInt64}

theorem offset_of_contains (inside : views.Contains view address) :
    (address - views.base view).toNat = address.toNat - (views.base view).toNat :=
  UInt64.toNat_sub_of_le _ _ (UInt64.le_iff_toNat_le.mpr inside.1)

/-- One comparison covers both ends: in front of the base the difference wraps to an offset that is at least
as large as the view, since the view ends before the addresses do. -/
theorem contains_iff (fits : views.Fits) :
    views.Contains view address ↔ (address - views.base view).toNat < views.size.toNat := by
  have bounded := fits view
  constructor
  · intro inside
    rw [offset_of_contains inside]
    unfold Contains at inside
    omega
  · intro near
    by_cases behind : (views.base view).toNat ≤ address.toNat
    · rw [UInt64.toNat_sub_of_le _ _ (UInt64.le_iff_toNat_le.mpr behind)] at near
      exact ⟨behind, by omega⟩
    · have words : UInt64.size = 2 ^ 64 := rfl
      have wrapped : (address - views.base view).toNat =
          2 ^ 64 - (views.base view).toNat + address.toNat := by
        rw [UInt64.toNat_sub]
        exact Nat.mod_eq_of_lt (by omega)
      omega

theorem across_offset (views : ViewPair) (view : View) (offset : UInt64) :
    views.across view (views.base view + offset) =
      if offset.toNat < views.size.toNat then .ok (views.base view.other + offset)
      else .error (.foreignAddress (views.base view + offset)) := by
  rw [across, offset_exact, Word.add_sub_base]
  split <;> rfl

theorem across_of_contains (fits : views.Fits) (inside : views.Contains view address) :
    views.across view address = .ok (views.base view.other + (address - views.base view)) := by
  rw [across, offset_exact, if_pos ((contains_iff fits).mp inside)]
  rfl

theorem across_of_not_contains (fits : views.Fits) (outside : ¬ views.Contains view address) :
    views.across view address = .error (.foreignAddress address) := by
  rw [across, offset_exact, if_neg (fun near => outside ((contains_iff fits).mpr near))]
  rfl

/-- The sum with the base of the other view does not leave the words. -/
theorem counterpart_toNat (fits : views.Fits) (inside : views.Contains view address) :
    (views.base view.other + (address - views.base view)).toNat =
      (views.base view.other).toNat + (address.toNat - (views.base view).toNat) := by
  have bounded := fits view.other
  have offset := offset_of_contains inside
  unfold Contains at inside
  rw [UInt64.toNat_add, offset]
  exact Nat.mod_eq_of_lt (by have words : UInt64.size = 2 ^ 64 := rfl; omega)

theorem counterpart_contained (fits : views.Fits) (inside : views.Contains view address) :
    views.Contains view.other (views.base view.other + (address - views.base view)) := by
  have placed := counterpart_toNat fits inside
  unfold Contains at inside ⊢
  rw [placed]
  omega

theorem across_counterpart (fits : views.Fits) (inside : views.Contains view address) :
    views.across view.other (views.base view.other + (address - views.base view)) = .ok address := by
  rw [across_of_contains fits (counterpart_contained fits inside), View.other_other,
    Word.add_sub_base, UInt64.add_comm, UInt64.sub_add_cancel]

end ViewPair

namespace Region

variable {region : Region} {view : View} {offset : UInt64}

theorem pointer_inside (inside : offset < region.size) :
    region.pointer view offset = .ok (region.base view + offset) := by
  rw [pointer, if_neg (UInt64.not_le.mpr inside)]

theorem pointer_iff : (∃ address, region.pointer view offset = .ok address) ↔ offset < region.size := by
  constructor
  · rintro ⟨address, found⟩
    rcases UInt64.lt_or_le offset region.size with inside | outside
    · exact inside
    · rw [pointer, if_pos outside] at found
      cases found
  · intro inside
    exact ⟨_, pointer_inside inside⟩

/-- The pointers of one offset are counterparts, also where a view wraps. -/
theorem across_pointer (inside : offset < region.size) :
    region.views.across view (region.base view + offset) = .ok (region.base view.other + offset) :=
  (region.views.across_offset view offset).trans (if_pos (UInt64.lt_iff_toNat_lt.mp inside))

theorem across_beyond (outside : ¬ offset < region.size) :
    region.views.across view (region.base view + offset) =
      .error (.foreignAddress (region.base view + offset)) :=
  (region.views.across_offset view offset).trans
    (if_neg fun near => outside (UInt64.lt_iff_toNat_lt.mpr near))

end Region

/-- The two views are images of each other. An address of a view has its counterpart at the same offset of the
other view, and that one leads back to it; any other address is refused by its own name. A slot whose views
have no address in common never takes an address of one for one of the other. An offset has a pointer in both
views or in none, and the two pointers are counterparts. -/
theorem counterparts_one_to_one (views : ViewPair) (fits : views.Fits) :
    (∀ view address,
        (views.Contains view address →
          ∃ there, views.across view address = .ok there ∧
            there.toNat =
              (views.base view.other).toNat + (address.toNat - (views.base view).toNat) ∧
            views.Contains view.other there ∧ views.across view.other there = .ok address) ∧
        (¬ views.Contains view address →
          views.across view address = .error (.foreignAddress address))) ∧
      ∀ region : Region, region.views = views →
        (views.Apart → ∀ view address, views.Contains view.other address →
          Slot.counterpart ⟨some region⟩ view address = .error (.foreignAddress address)) ∧
        ∀ view offset,
          ((∃ address, region.pointer view offset = .ok address) ↔ offset < region.size) ∧
          (offset < region.size →
            ∃ here there, region.pointer view offset = .ok here ∧
              region.pointer view.other offset = .ok there ∧
              views.across view here = .ok there) := by
  constructor
  · intro view address
    constructor
    · intro inside
      exact ⟨_, ViewPair.across_of_contains fits inside, ViewPair.counterpart_toNat fits inside,
        ViewPair.counterpart_contained fits inside, ViewPair.across_counterpart fits inside⟩
    · intro outside
      exact ViewPair.across_of_not_contains fits outside
  · rintro region rfl
    constructor
    · intro apart view address inside
      apply ViewPair.across_of_not_contains fits
      have elsewhere := apart address view.other inside
      rwa [View.other_other] at elsewhere
    · intro view offset
      constructor
      · exact Region.pointer_iff
      · intro inside
        exact ⟨_, _, Region.pointer_inside inside, Region.pointer_inside inside,
          Region.across_pointer inside⟩

/-- Two adjacent views, the second of which ends with the last address. -/
theorem adjacent_views_at_the_top :
    let views : ViewPair := ⟨0xFFFFFFFFFFFFE000, 0xFFFFFFFFFFFFF000, 0x1000⟩
    let region : Region := ⟨views, 3, Bytes.zeros⟩
    views.Fits ∧ views.Apart ∧
      (∃ there, views.across .writable 0xFFFFFFFFFFFFEFFF = .ok there ∧
        there.toNat = 0xFFFFFFFFFFFFFFFF ∧
        views.across .executable there = .ok 0xFFFFFFFFFFFFEFFF) ∧
      views.across .writable 0 = .error (.foreignAddress 0) ∧
      Slot.counterpart ⟨some region⟩ .executable 0xFFFFFFFFFFFFEFFF =
        .error (.foreignAddress 0xFFFFFFFFFFFFEFFF) ∧
      ∃ here there, region.pointer .executable 0xFFF = .ok here ∧
        region.pointer .writable 0xFFF = .ok there ∧ views.across .executable here = .ok there := by
  intro views region
  have fits : views.Fits := by
    intro view
    cases view <;> decide
  have apart : views.Apart := by
    intro address view inside beyond
    cases view <;> simp [ViewPair.Contains, ViewPair.base, View.other, views] at inside beyond <;> omega
  have last : views.Contains .writable 0xFFFFFFFFFFFFEFFF := by decide
  have first : ¬ views.Contains .writable 0 := by decide
  obtain ⟨translated, owned⟩ := counterparts_one_to_one views fits
  obtain ⟨refused, pointers⟩ := owned region rfl
  obtain ⟨there, found, placed, _, back⟩ := (translated .writable _).1 last
  exact ⟨fits, apart, ⟨there, found, placed, back⟩, (translated .writable 0).2 first,
    refused apart .executable _ last, (pointers .executable 0xFFF).2 (by decide)⟩

end TwinView
