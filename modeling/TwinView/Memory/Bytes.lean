import Std.Data.TreeMap

/-!
The content of a block. A new block holds zeros. Bytes are kept in rows, and only rows that were stored to
take room, so a block may be far larger than what is written to it. Everything is said through `byteAt`.
-/

namespace TwinView

abbrev Row := Vector UInt8 64

structure Bytes where
  rows : Std.TreeMap Nat Row

namespace Bytes

def blankRow : Row := Vector.replicate 64 0

def zeros : Bytes := ⟨∅⟩

def byteAt (bytes : Bytes) (offset : Nat) : UInt8 :=
  (bytes.rows.getD (offset / 64) blankRow)[offset % 64]

def set (bytes : Bytes) (offset : Nat) (byte : UInt8) : Bytes :=
  ⟨bytes.rows.alter (offset / 64) fun row => some ((row.getD blankRow).set (offset % 64) byte)⟩

/-- Stores the data from the offset on, one byte after the other. -/
def store (offset : Nat) : List UInt8 → Bytes → Bytes
  | [], bytes => bytes
  | byte :: rest, bytes => store (offset + 1) rest (bytes.set offset byte)

theorem byteAt_zeros (offset : Nat) : zeros.byteAt offset = 0 := by
  simp [zeros, byteAt, blankRow]

theorem byteAt_set (bytes : Bytes) (offset : Nat) (byte : UInt8) (other : Nat) :
    (bytes.set offset byte).byteAt other =
      if offset = other then byte else bytes.byteAt other := by
  unfold set byteAt
  rw [Std.TreeMap.getD_alter]
  by_cases row : offset / 64 = other / 64
  · rw [if_pos (Std.LawfulEqCmp.compare_eq_iff_eq.mpr row), Option.getD_some]
    by_cases place : offset % 64 = other % 64
    · have same : offset = other := by omega
      subst same
      rw [if_pos rfl, Vector.getElem_set_self]
    · have different : offset ≠ other := fun same => place (by rw [same])
      rw [if_neg different, Vector.getElem_set_ne _ _ place, row, Std.TreeMap.getD_eq_getD_getElem?]
  · have different : offset ≠ other := fun same => row (by rw [same])
    rw [if_neg (fun equal => row (Std.LawfulEqCmp.compare_eq_iff_eq.mp equal)), if_neg different]

/-- A store changes the bytes that it covers and no others. -/
theorem byteAt_store (data : List UInt8) (bytes : Bytes) (offset other : Nat) :
    (bytes.store offset data).byteAt other =
      if offset ≤ other ∧ other < offset + data.length then data.getD (other - offset) 0
      else bytes.byteAt other := by
  induction data generalizing bytes offset with
  | nil =>
      have nothing : ¬ (offset ≤ other ∧ other < offset + ([] : List UInt8).length) := by
        rw [List.length_nil]
        omega
      rw [if_neg nothing]
      rfl
  | cons byte rest ih =>
      rw [store, ih, byteAt_set, List.length_cons]
      by_cases same : offset = other
      · subst other
        rw [if_neg (by omega), if_pos rfl, if_pos (by omega), Nat.sub_self]
        rfl
      · by_cases inside : offset + 1 ≤ other ∧ other < offset + 1 + rest.length
        · have step : other - offset = (other - (offset + 1)) + 1 := by omega
          rw [if_pos inside, if_pos (by omega), step]
          rfl
        · rw [if_neg inside, if_neg same, if_neg (by omega)]

end Bytes

end TwinView
