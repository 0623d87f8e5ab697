import TwinView.Word

/-!
Alignments as numbers. Clearing the low bits of a word rounds it down to a multiple of the alignment, and
clearing them after the sum with one less than the alignment rounds it up, as long as the sum is a word.
Where it is none, the multiple that would come next is none either.
-/

namespace TwinView.Alignment

/-- The first multiple of the alignment that is not in front of the offset. -/
def ceiling (offset align : Nat) : Nat := (offset + (align - 1)) / align * align

theorem dvd_ceiling (offset align : Nat) : align ∣ ceiling offset align :=
  Nat.dvd_mul_left align _

theorem le_ceiling (offset : Nat) {align : Nat} (positive : 0 < align) :
    offset ≤ ceiling offset align := by
  have next := Nat.lt_mul_div_succ (offset + (align - 1)) positive
  rw [Nat.mul_add, Nat.mul_one, Nat.mul_comm] at next
  unfold ceiling
  omega

/-- Less than one alignment is skipped, so the ceiling is the first multiple there is. -/
theorem ceiling_lt (offset : Nat) {align : Nat} (positive : 0 < align) :
    ceiling offset align < offset + align := by
  have below := Nat.div_mul_le_self (offset + (align - 1)) align
  unfold ceiling
  omega

/-- No other multiple lies between the offset and its ceiling. -/
theorem ceiling_le {offset align multiple : Nat} (behind : offset ≤ multiple)
    (whole : align ∣ multiple) : ceiling offset align ≤ multiple := by
  obtain ⟨count, rfl⟩ := whole
  rcases Nat.eq_zero_or_pos align with rfl | positive
  · exact Nat.le_of_eq (by simp [ceiling])
  · have short : (offset + (align - 1)) / align < count + 1 := by
      rw [Nat.div_lt_iff_lt_mul positive, Nat.add_mul, Nat.one_mul, Nat.mul_comm count]
      omega
    rw [ceiling, Nat.mul_comm]
    exact Nat.mul_le_mul_left align (Nat.le_of_lt_succ short)

/-- A coarser alignment never rounds to less, nor does a later offset. -/
theorem ceiling_mono {offset later align coarser : Nat} (behind : offset ≤ later)
    (divides : align ∣ coarser) (positive : 0 < coarser) :
    ceiling offset align ≤ ceiling later coarser := by
  apply ceiling_le
  · exact Nat.le_trans behind (le_ceiling later positive)
  · exact Nat.dvd_trans divides (dvd_ceiling later coarser)

theorem dvd_of_le {align coarser : Nat} (power : align.isPowerOfTwo)
    (power' : coarser.isPowerOfTwo) (le : align ≤ coarser) : align ∣ coarser := by
  obtain ⟨exponent, rfl⟩ := power
  obtain ⟨further, rfl⟩ := power'
  exact Nat.pow_dvd_pow 2 ((Nat.pow_le_pow_iff_right (by decide)).mp le)

/-- What is counted from a multiple is rounded by itself. -/
theorem ceiling_add {align multiple : Nat} (whole : align ∣ multiple) (offset : Nat) :
    ceiling (multiple + offset) align = multiple + ceiling offset align := by
  obtain ⟨count, rfl⟩ := whole
  rcases Nat.eq_zero_or_pos align with rfl | positive
  · simp [ceiling]
  · rw [ceiling, ceiling, Nat.add_assoc, Nat.mul_add_div positive, Nat.add_mul, Nat.mul_comm count]

theorem ceiling_one (offset : Nat) : ceiling offset 1 = offset := by
  simp [ceiling]

theorem ceiling_zero {align : Nat} (positive : 0 < align) : ceiling 0 align = 0 := by
  have below : 0 + (align - 1) < align := by omega
  rw [ceiling, Nat.div_eq_of_lt below, Nat.zero_mul]

theorem isPowerOfTwo_iff {align : UInt64} :
    Word.isPowerOfTwo align = true ↔ align.toNat.isPowerOfTwo := by
  rw [← Nat.ne_zero_and_sub_one_eq_zero_iff_isPowerOfTwo, Word.isPowerOfTwo, Bool.and_eq_true,
    bne_iff_ne, beq_iff_eq]
  by_cases zero : align = 0
  · simp [zero]
  · have nonzero : align.toNat ≠ 0 := fun same => zero (UInt64.toNat_inj.mp same)
    have one : (1 : UInt64) ≤ align := UInt64.le_iff_toNat_le.mpr (Nat.pos_of_ne_zero nonzero)
    have pred : (align - 1).toNat = align.toNat - 1 := UInt64.toNat_sub_of_le align 1 one
    rw [← UInt64.toNat_inj, UInt64.toNat_and, pred]
    exact and_congr (iff_of_true zero nonzero) Iff.rfl

theorem align_pos {align : UInt64} (power : Word.isPowerOfTwo align = true) : 0 < align.toNat := by
  obtain ⟨exponent, same⟩ := isPowerOfTwo_iff.mp power
  rw [same]
  exact Nat.two_pow_pos exponent

theorem align_pred {align : UInt64} (power : Word.isPowerOfTwo align = true) :
    (align - 1).toNat = align.toNat - 1 :=
  UInt64.toNat_sub_of_le align 1 (UInt64.le_iff_toNat_le.mpr (align_pos power))

/-- A power of two that is a word divides the number of words. -/
theorem align_dvd_size {align : UInt64} (power : Word.isPowerOfTwo align = true) :
    align.toNat ∣ UInt64.size := by
  obtain ⟨exponent, same⟩ := isPowerOfTwo_iff.mp power
  have bound := align.toNat_lt
  rw [same] at bound ⊢
  exact Nat.pow_dvd_pow 2 (Nat.le_of_lt ((Nat.pow_lt_pow_iff_right (by decide)).mp bound))

theorem clear_low_exact (word : UInt64) {align : UInt64} (power : Word.isPowerOfTwo align = true) :
    (word &&& ~~~(align - 1)).toNat = word.toNat / align.toNat * align.toNat := by
  have pred := align_pred power
  obtain ⟨exponent, same⟩ := isPowerOfTwo_iff.mp power
  have inside : 2 ^ exponent - 1 < 2 ^ 64 := by
    have bound := (align - 1).toNat_lt
    rwa [pred, same] at bound
  rw [UInt64.toNat_and, UInt64.toNat_not, pred, same]
  -- Bit by bit: the complement has the bits from the exponent on, up to the width of a word.
  apply Nat.eq_of_testBit_eq
  intro place
  have complement : UInt64.size - 1 - (2 ^ exponent - 1) = 2 ^ 64 - ((2 ^ exponent - 1) + 1) := by
    have words : UInt64.size = 2 ^ 64 := rfl
    omega
  rw [Nat.testBit_and, complement, Nat.testBit_two_pow_sub_succ inside,
    Nat.testBit_two_pow_sub_one, Nat.testBit_mul_two_pow, Nat.testBit_div_two_pow]
  by_cases low : place < exponent
  · simp [low, Nat.not_le.mpr low]
  · have high : exponent ≤ place := Nat.le_of_not_lt low
    rw [Nat.sub_add_cancel high]
    by_cases within : place < 64
    · simp [low, high, within]
    · have beyond : word.toNat < 2 ^ place :=
        Nat.lt_of_lt_of_le word.toNat_lt (Nat.pow_le_pow_right (by decide) (Nat.le_of_not_lt within))
      simp [Nat.testBit_lt_two_pow beyond]

/-- Where the padded offset is no word, no aligned word is left. -/
theorem size_le_ceiling (offset : UInt64) {align : UInt64}
    (power : Word.isPowerOfTwo align = true)
    (beyond : UInt64.size ≤ offset.toNat + (align.toNat - 1)) :
    UInt64.size ≤ ceiling offset.toNat align.toNat := by
  obtain ⟨count, whole⟩ := align_dvd_size power
  rw [whole, Nat.mul_comm] at beyond ⊢
  exact Nat.mul_le_mul_right _ ((Nat.le_div_iff_mul_le (align_pos power)).mpr beyond)

end TwinView.Alignment
