/-!
Arithmetic on 64-bit words that does not wrap unnoticed, and alignments.
-/

namespace TwinView.Word

/-- The sum, if it is a word. -/
def add? (left right : UInt64) : Option UInt64 :=
  if left.toNat + right.toNat < UInt64.size then some (left + right) else none

/-- The difference, or zero where it would be negative. -/
def monus (left right : UInt64) : UInt64 :=
  if right ≤ left then left - right else 0

def isPowerOfTwo (word : UInt64) : Bool :=
  word != 0 && word &&& (word - 1) == 0

theorem add?_eq_some {left right sum : UInt64} (found : add? left right = some sum) :
    sum.toNat = left.toNat + right.toNat := by
  unfold add? at found
  split at found
  · rename_i fits
    cases found
    rw [UInt64.toNat_add]
    exact Nat.mod_eq_of_lt fits
  · cases found

theorem add?_eq_none {left right : UInt64} :
    add? left right = none ↔ UInt64.size ≤ left.toNat + right.toNat := by
  unfold add?
  split <;> simp <;> omega

/-- What lies at an offset from a base lies that far behind it, also where the sum wraps. -/
theorem add_sub_base (base offset : UInt64) : base + offset - base = offset := by
  rw [UInt64.add_comm]
  exact UInt64.add_sub_cancel offset base

/-- Going on from an address carries over to its distance from a base. -/
theorem add_sub_right_comm (address step base : UInt64) :
    address + step - base = address - base + step := by
  rw [UInt64.sub_eq_add_neg, UInt64.sub_eq_add_neg, UInt64.add_assoc, UInt64.add_comm step,
    UInt64.add_assoc]

theorem monus_toNat (left right : UInt64) :
    (monus left right).toNat = left.toNat - right.toNat := by
  unfold monus
  split
  · rename_i le
    exact UInt64.toNat_sub_of_le left right le
  · rename_i gt
    rw [UInt64.le_iff_toNat_le] at gt
    exact (Nat.sub_eq_zero_of_le (by omega)).symm

end TwinView.Word
