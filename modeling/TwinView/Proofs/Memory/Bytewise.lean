import TwinView.Proofs.Memory.Translation

/-!
Ranges, byte by byte. The check of a range looks at its start and at its length and at nothing between. It
still accepts exactly the ranges of which every byte is accepted alone, wherever the view lies and also if the
range runs past the last address and on from the first. The reason is that the size of a view is a word: a
range that begins in the view and is too long has a byte at the very offset where the view ends.
-/

namespace TwinView

namespace ViewPair

variable {views : ViewPair} {view : View} {address exec len index : UInt64}

theorem offset_iff :
    (∃ start, views.offset view address = .ok start) ↔
      (address - views.base view).toNat < views.size.toNat := by
  rw [offset_exact]
  split <;> simp [*]

theorem rangeOffset_iff :
    (∃ start, views.rangeOffset exec len = .ok start) ↔ views.Covers exec len := by
  rw [rangeOffset_exact]
  split <;> simp [*]

theorem offset_of_rangeOffset {start : UInt64} (accepted : views.rangeOffset exec len = .ok start) :
    views.offset .executable exec = .ok start := by
  have covered := rangeOffset_iff.mp ⟨start, accepted⟩
  rw [rangeOffset_exact, if_pos covered] at accepted
  rw [offset_exact, if_pos covered.1, ← accepted]

/-- The bytes of a covered range lie one behind the other in the view, with no wrap between them. -/
theorem Covers.toNat_offset (covered : views.Covers exec len) (within : index < len) :
    (exec + index - views.base .executable).toNat =
      (exec - views.base .executable).toNat + index.toNat := by
  have bounded := views.size.toNat_lt
  have before := UInt64.lt_iff_toNat_lt.mp within
  have fits := covered.2
  rw [Word.add_sub_right_comm, UInt64.toNat_add]
  exact Nat.mod_eq_of_lt (by omega)

theorem Covers.byte (covered : views.Covers exec len) (within : index < len) :
    (exec + index - views.base .executable).toNat < views.size.toNat := by
  have before := UInt64.lt_iff_toNat_lt.mp within
  have fits := covered.2
  rw [covered.toNat_offset within]
  omega

theorem covers_of_bytes (nonempty : 0 < len)
    (bytes : ∀ index < len, (exec + index - views.base .executable).toNat < views.size.toNat) :
    views.Covers exec len := by
  have first := bytes 0 nonempty
  rw [UInt64.add_zero] at first
  refine ⟨first, Nat.le_of_not_lt fun tooLong => ?_⟩
  -- The first byte behind the end of the view is one of the range, and its offset is a word.
  have reaches := UInt64.le_iff_toNat_le.mpr (Nat.le_of_lt first)
  have distance := UInt64.toNat_sub_of_le _ _ reaches
  have within : views.size - (exec - views.base .executable) < len := by
    rw [UInt64.lt_iff_toNat_lt, distance]
    omega
  have beyond := bytes _ within
  rw [Word.add_sub_right_comm, UInt64.add_comm, UInt64.sub_add_cancel] at beyond
  exact Nat.lt_irrefl _ beyond

theorem covers_iff_bytes (nonempty : 0 < len) :
    views.Covers exec len ↔
      ∀ index < len, (exec + index - views.base .executable).toNat < views.size.toNat :=
  ⟨fun covered _ within => covered.byte within, covers_of_bytes nonempty⟩

theorem rangeOffset_empty (views : ViewPair) (exec : UInt64) :
    views.rangeOffset exec 0 = views.offset .executable exec := by
  rw [rangeOffset]
  cases views.offset .executable exec with
  | error fault => rfl
  | ok start => exact if_neg (Nat.not_lt_zero _)

theorem rangeOffset_refused {fault : Fault} (refused : views.rangeOffset exec len = .error fault) :
    fault = .foreignAddress (views.strayAddress exec len) := by
  rw [rangeOffset_exact] at refused
  split at refused <;> cases refused
  rfl

theorem rangeAcross_of_rangeOffset {start : UInt64}
    (accepted : views.rangeOffset exec len = .ok start) :
    views.rangeAcross exec len = .ok (views.writableBase + start) := by
  rw [rangeAcross, accepted]
  rfl

theorem Covers.across_byte (covered : views.Covers exec len) (within : index < len) :
    views.across .executable (exec + index) =
      .ok (views.writableBase + (exec - views.base .executable) + index) := by
  rw [across, offset_exact, if_pos (covered.byte within), Word.add_sub_right_comm, UInt64.add_assoc]
  rfl

/-- Where the writable view does not go past the last address, no byte of a covered range has a counterpart
that wraps. -/
theorem Covers.toNat_across (covered : views.Covers exec len) (fits : views.Fits) (within : index < len) :
    (views.writableBase + (exec - views.base .executable) + index).toNat =
      (views.writableBase + (exec - views.base .executable)).toNat + index.toNat := by
  have bounded := fits .writable
  have start := covered.1
  have last := covered.byte within
  have placed := covered.toNat_offset within
  have words : UInt64.size = 2 ^ 64 := rfl
  have base : views.base .writable = views.writableBase := rfl
  rw [base] at bounded
  rw [UInt64.toNat_add, UInt64.toNat_add]
  omega

end ViewPair

/-- A range is accepted as a whole exactly if each of its bytes is accepted alone, and then with the offset of
its start; an empty one is checked like its start. A refused range is blamed on its start if that lies outside,
and otherwise on its end. Where no view goes past the last address, the bytes of an accepted range have their
counterparts one behind the other, from that of the start on. -/
theorem range_accepted_bytewise (views : ViewPair) (exec : UInt64) :
    (∀ len, 0 < len →
        ((∃ start, views.rangeOffset exec len = .ok start) ↔
          ∀ index < len, ∃ start, views.offset .executable (exec + index) = .ok start)) ∧
      (∀ len start, views.rangeOffset exec len = .ok start →
        views.offset .executable exec = .ok start) ∧
      views.rangeOffset exec 0 = views.offset .executable exec ∧
      (∀ len fault, views.rangeOffset exec len = .error fault →
        ((¬ ∃ start, views.offset .executable exec = .ok start) → fault = .foreignAddress exec) ∧
        ((∃ start, views.offset .executable exec = .ok start) →
          fault = .foreignAddress (exec + len))) ∧
      (views.Fits → ∀ len start, views.rangeOffset exec len = .ok start →
        ∃ address, views.rangeAcross exec len = .ok address ∧
          ∀ index < len, views.across .executable (exec + index) = .ok (address + index) ∧
            (address + index).toNat = address.toNat + index.toNat) := by
  refine ⟨?_, ?_, ViewPair.rangeOffset_empty views exec, ?_, ?_⟩
  · intro len nonempty
    simp only [ViewPair.rangeOffset_iff, ViewPair.offset_iff]
    exact ViewPair.covers_iff_bytes nonempty
  · intro len start accepted
    exact ViewPair.offset_of_rangeOffset accepted
  · intro len fault refused
    have blamed := ViewPair.rangeOffset_refused refused
    simp only [ViewPair.offset_iff]
    constructor
    · intro outside
      rw [blamed, ViewPair.strayAddress, if_neg outside]
    · intro inside
      rw [blamed, ViewPair.strayAddress, if_pos inside]
  · intro fits len start accepted
    have covered := ViewPair.rangeOffset_iff.mp ⟨start, accepted⟩
    have exactly := ViewPair.rangeOffset_exact views exec len
    rw [if_pos covered] at exactly
    obtain rfl : exec - views.base .executable = start := Except.ok.inj (exactly.symm.trans accepted)
    refine ⟨_, ViewPair.rangeAcross_of_rangeOffset accepted, ?_⟩
    intro index within
    exact ⟨covered.across_byte within, covered.toNat_across fits within⟩

/-- A range that runs past the last address, in a view that does so too. -/
theorem range_over_the_top_accepted :
    let views : ViewPair := ⟨0x10000, 0xFFFFFFFFFFFFF800, 0x1000⟩
    views.rangeOffset 0xFFFFFFFFFFFFFF00 0x200 = .ok 0x700 ∧
      ∀ index < 0x200, ∃ start,
        views.offset .executable (0xFFFFFFFFFFFFFF00 + index) = .ok start := by
  intro views
  have covered : views.Covers 0xFFFFFFFFFFFFFF00 0x200 := by decide
  have accepted : views.rangeOffset 0xFFFFFFFFFFFFFF00 0x200 = .ok 0x700 := by
    rw [ViewPair.rangeOffset_exact, if_pos covered]
    exact congrArg Except.ok (by decide)
  have bytewise := (range_accepted_bytewise views 0xFFFFFFFFFFFFFF00).1 0x200 (by decide)
  exact ⟨accepted, bytewise.mp ⟨_, accepted⟩⟩

end TwinView
