import TwinView.Proofs.Memory.Grant

/-!
One cursor that is used with any number of slots. A slot may be filled, cleared and filled again at any time,
with regions of any size, so the cursor may stand past the end of the region that it is asked for next. What
is granted from one reset to the next stays in order all the same: every range starts where the cursor stood
or behind it, whichever region it belongs to.
-/

namespace TwinView

namespace Sharing

open TwinView.Alignment (ceiling)

/-- One cursor, and slots by number. -/
structure Pool where
  cursor : Cursor
  slots : Nat → Slot

inductive Step where
  /-- Something is done with a slot that the cursor has no part in. -/
  | slot (index : Nat) (step : Slot.Step)
  | reserve (index : Nat) (len align : UInt64)
  | reset

namespace Pool

def reserve (pool : Pool) (index : Nat) (len align : UInt64) : EStateM.Result Fault Cursor UInt64 :=
  (Cursor.reserve (pool.slots index) len align).run pool.cursor

def after (pool : Pool) : Step → Pool
  | .slot index step =>
      { pool with
        slots := fun other =>
          if other = index then (pool.slots index).after step else pool.slots other }
  | .reserve index len align =>
      match pool.reserve index len align with
      | .ok _ cursor | .error _ cursor => { pool with cursor := cursor }
  | .reset => { pool with cursor := .zero }

end Pool

/-- A range that was granted, as the caller knows it: what was asked for, the size of the region that was
asked, and the offset of the address that came back. -/
structure Lease where
  len : UInt64
  align : UInt64
  size : UInt64
  start : UInt64

def Lease.finish (lease : Lease) : Nat := lease.start.toNat + lease.len.toNat

/-- The bytes that were granted, without those that were skipped between them. -/
def Lease.total : List Lease → Nat
  | [] => 0
  | lease :: earlier => total earlier + lease.len.toNat

/-- A pool with the leases since the last reset, the latest first. -/
structure History where
  pool : Pool
  leases : List Lease

namespace History

def start (slots : Nat → Slot) : History := ⟨⟨.zero, slots⟩, []⟩

def leasesAfter (history : History) : Step → List Lease
  | .slot _ _ => history.leases
  | .reserve index len align =>
      match (history.pool.slots index).region, history.pool.reserve index len align with
      | some region, .ok address _ =>
          ⟨len, align, region.size, address - region.base .executable⟩ :: history.leases
      | _, _ => history.leases
  | .reset => []

def after (history : History) (step : Step) : History :=
  ⟨history.pool.after step, history.leasesAfter step⟩

def run (history : History) (steps : List Step) : History := steps.foldl after history

end History

/-- The leases and where they have brought the cursor: each one starts at the ceiling of where the cursor
stood before it, and leaves it at its own end. -/
inductive Packed : List Lease → Nat → Prop where
  | none : Packed [] 0
  | lease {leases : List Lease} {used : Nat} (lease : Lease) :
      Packed leases used → 0 < lease.len.toNat → 0 < lease.align.toNat →
        lease.start.toNat = ceiling used lease.align.toNat → lease.finish ≤ lease.size.toNat →
          Packed (lease :: leases) lease.finish

namespace Packed

variable {leases : List Lease} {used : Nat}

theorem last_finish (packed : Packed leases used) :
    used = (leases.head?.map Lease.finish).getD 0 := by
  cases packed <;> rfl

theorem used_le_start {lease : Lease} (positive : 0 < lease.align.toNat)
    (started : lease.start.toNat = ceiling used lease.align.toNat) : used ≤ lease.start.toNat := by
  rw [started]
  exact Alignment.le_ceiling used positive

theorem finish_le_used (packed : Packed leases used) : ∀ lease ∈ leases, lease.finish ≤ used := by
  induction packed with
  | none => simp
  | @lease earlier before lease _ _ positive started _ ih =>
      intro other member
      rcases List.mem_cons.mp member with rfl | member
      · exact Nat.le_refl _
      · calc
          other.finish ≤ before := ih other member
          _ ≤ lease.start.toNat := used_le_start positive started
          _ ≤ lease.finish := Nat.le_add_right _ _

theorem granted (packed : Packed leases used) :
    ∀ lease ∈ leases, 0 < lease.len.toNat ∧ lease.align.toNat ∣ lease.start.toNat ∧
      lease.finish ≤ lease.size.toNat := by
  induction packed with
  | none => simp
  | lease lease _ nonempty _ started inside ih =>
      intro other member
      rcases List.mem_cons.mp member with rfl | member
      · exact ⟨nonempty, by rw [started]; exact Alignment.dvd_ceiling _ _, inside⟩
      · exact ih other member

theorem in_order (packed : Packed leases used) :
    leases.Pairwise fun later earlier =>
      earlier.finish ≤ later.start.toNat ∧ earlier.start < later.start := by
  induction packed with
  | none => exact List.Pairwise.nil
  | lease lease packed _ positive started _ ih =>
      refine List.pairwise_cons.mpr ⟨?_, ih⟩
      intro earlier member
      have nonempty := (packed.granted earlier member).1
      have behind := Nat.le_trans (packed.finish_le_used earlier member)
        (used_le_start positive started)
      refine ⟨behind, ?_⟩
      rw [UInt64.lt_iff_toNat_lt]
      unfold Lease.finish at behind
      omega

theorem used_eq_total (packed : Packed leases used)
    (unaligned : ∀ lease ∈ leases, lease.align = 1) : used = Lease.total leases := by
  induction packed with
  | none => rfl
  | @lease earlier before lease _ _ _ started _ ih =>
      have one : lease.align.toNat = 1 := by
        rw [unaligned lease List.mem_cons_self]
        rfl
      have rest := ih fun other member => unaligned other (List.mem_cons_of_mem _ member)
      rw [one, Alignment.ceiling_one] at started
      rw [Lease.finish, started, rest, Lease.total]

end Packed

namespace History

theorem after_packed (history : History) (step : Step)
    (packed : Packed history.leases history.pool.cursor.used.toNat) :
    Packed (history.after step).leases (history.after step).pool.cursor.used.toNat := by
  cases step with
  -- Whatever becomes of a slot, the leases from it keep the size that they were granted under.
  | slot index step => exact packed
  | reset => exact Packed.none
  | reserve index len align =>
      rcases Cursor.reserve_cases (history.pool.slots index) len align history.pool.cursor with
        ⟨fault, failed, _⟩ | ⟨region, address, cursor, done, grants⟩
      · have same : history.pool.reserve index len align = .error fault history.pool.cursor := failed
        simpa [after, leasesAfter, Pool.after, same] using packed
      · have moved : history.pool.reserve index len align = .ok address cursor := done
        have finish : Lease.finish ⟨len, align, region.size, address - region.base .executable⟩ =
            cursor.used.toNat := by
          rw [Lease.finish, grants.start, grants.finish]
        have leased := Packed.lease ⟨len, align, region.size, address - region.base .executable⟩ packed
          grants.nonempty (Alignment.align_pos grants.power) grants.start
          (by rw [finish]; exact grants.inside)
        rw [finish] at leased
        simpa [after, leasesAfter, Pool.after, moved, grants.owned] using leased

theorem run_packed (history : History) (steps : List Step)
    (packed : Packed history.leases history.pool.cursor.used.toNat) :
    Packed (history.run steps).leases (history.run steps).pool.cursor.used.toNat := by
  induction steps generalizing history with
  | nil => exact packed
  | cons step rest ih => exact ih (history.after step) (history.after_packed step packed)

end History

theorem Pool.used_le_after (pool : Pool) (step : Step) (kept : step ≠ .reset) :
    pool.cursor.used ≤ (pool.after step).cursor.used := by
  cases step with
  | slot index step => exact UInt64.le_refl _
  | reset => exact absurd rfl kept
  | reserve index len align =>
      rcases Cursor.reserve_cases (pool.slots index) len align pool.cursor with
        ⟨fault, failed, _⟩ | ⟨region, address, cursor, done, grants⟩
      · have same : pool.reserve index len align = .error fault pool.cursor := failed
        simp [after, same]
      · have moved : pool.reserve index len align = .ok address cursor := done
        simp only [after, moved]
        exact UInt64.le_iff_toNat_le.mpr grants.advances

/-- From one reset to the next, the ranges of a cursor follow each other, whichever regions they belong to. -/
theorem leases_in_order (slots : Nat → Slot) (steps : List Step) :
    let history := (History.start slots).run steps
    let used := history.pool.cursor.used.toNat
    (history.leases.Pairwise fun later earlier =>
        earlier.finish ≤ later.start.toNat ∧ earlier.start < later.start) ∧
      (∀ lease ∈ history.leases, 0 < lease.len.toNat ∧ lease.align.toNat ∣ lease.start.toNat ∧
        lease.finish ≤ lease.size.toNat) ∧
      used = (history.leases.head?.map Lease.finish).getD 0 ∧
      (∀ index len align fault cursor,
        history.pool.reserve index len align = .error fault cursor → cursor = history.pool.cursor) ∧
      (∀ step, (history.pool.after step).cursor.used < history.pool.cursor.used → step = .reset) ∧
      ((∀ lease ∈ history.leases, lease.align = 1) → used = Lease.total history.leases) := by
  have packed : Packed _ _ := (History.start slots).run_packed steps Packed.none
  refine ⟨packed.in_order, packed.granted, packed.last_finish, ?_, ?_, packed.used_eq_total⟩
  · intro index len align fault cursor failed
    exact Cursor.reserve_error_same failed
  · intro step back
    by_cases reset : step = .reset
    · exact reset
    · exact absurd back (UInt64.not_lt.mpr (Pool.used_le_after _ step reset))

end Sharing

end TwinView
