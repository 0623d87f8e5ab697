import TwinView.Proofs.Memory.Journal

/-!
A region that has become too full for a request stays so. A cursor only moves forward until it is reset, and
whoever moves it, through whichever region, leaves less of this one. What did not fit then does not fit later, and
neither does what is longer or asks for a coarser alignment: its range would start no earlier and end no earlier.
So there is no point in trying again before the region has been made anew.
-/

namespace TwinView

/-- Short of being given up, a region keeps its size. -/
theorem Slot.size?_after {slot : Slot} {step : Slot.Step} {size : UInt64} (held : step ≠ .clear)
    (sized : slot.size? = some size) : (slot.after step).size? = some size := by
  obtain ⟨region, owned, rfl⟩ := Option.map_eq_some_iff.mp sized
  cases ran : (Slot.perform step).run slot with
  | ok answer next =>
      obtain ⟨later, there, views, _⟩ := Slot.region_of_ok owned held ran
      simp only [Slot.after, ran, Slot.size?, there, Option.map_some, Region.size, views]
  | error fault next =>
      obtain rfl := Slot.same_of_error ran
      simpa only [Slot.after, ran] using sized

namespace Cursor

open TwinView.Alignment (ceiling)

/-- The request is valid, and its range would not end within the size. -/
structure Exhausts (size len align : UInt64) (cursor : Cursor) : Prop where
  valid : IsValid len align
  beyond : size.toNat < ceiling cursor.used.toNat align.toNat + len.toNat

section Requests

variable {slot : Slot} {size len align wider coarser requested left : UInt64} {cursor later after : Cursor}

theorem Exhausts.lasts (exhausts : Exhausts size len align cursor) (further : cursor.used ≤ later.used)
    (longer : len ≤ wider) (coarse : align ≤ coarser) (valid : IsValid wider coarser) :
    Exhausts size wider coarser later where
  valid := valid
  beyond := by
    have divides := Alignment.dvd_of_le exhausts.valid.2 valid.2 (UInt64.le_iff_toNat_le.mp coarse)
    calc
      size.toNat < ceiling cursor.used.toNat align.toNat + len.toNat := exhausts.beyond
      _ ≤ ceiling later.used.toNat coarser.toNat + wider.toNat := by
        apply Nat.add_le_add
        · exact Alignment.ceiling_mono (UInt64.le_iff_toNat_le.mp further) divides
            (Nat.pos_of_isPowerOfTwo valid.2)
        · exact UInt64.le_iff_toNat_le.mp longer

theorem left_le (size : UInt64) (further : cursor.used ≤ later.used) :
    later.left size ≤ cursor.left size := by
  rw [UInt64.le_iff_toNat_le] at further ⊢
  rw [left, left, Word.monus_toNat, Word.monus_toNat]
  omega

theorem reserve_exhausted (sized : slot.size? = some size) (exhausts : Exhausts size len align cursor) :
    reserve slot len align cursor = .error (.regionFull len (cursor.left size)) cursor := by
  rcases slot with ⟨_ | region⟩
  · cases sized
  · cases sized
    exact reserve_unfit exhausts.valid exhausts.beyond

theorem exhausts_of_regionFull
    (failed : reserve slot len align cursor = .error (.regionFull requested left) after) :
    ∃ size, slot.size? = some size ∧ Exhausts size len align cursor ∧ left = cursor.left size := by
  rcases reserve_cases slot len align cursor with ⟨fault, refused, refuses⟩ | ⟨_, _, _, granted, _⟩
  · rw [refused] at failed
    cases failed
    cases refuses with
    | full nonempty power owned beyond =>
        refine ⟨_, congrArg (Option.map Region.size) owned, ⟨?_, beyond⟩, rfl⟩
        exact ⟨nonempty, Alignment.isPowerOfTwo_iff.mp power⟩
  · rw [granted] at failed
    cases failed

end Requests

end Cursor

namespace Sharing

namespace Pool

def run (pool : Pool) (steps : List Step) : Pool := steps.foldl after pool

variable {pool : Pool} {index : Nat} {size : UInt64} {steps : List Step}

theorem size?_after {step : Step} (held : step ≠ .slot index .clear)
    (sized : (pool.slots index).size? = some size) :
    ((pool.after step).slots index).size? = some size := by
  cases step with
  | slot other inner =>
      by_cases same : index = other
      · subst same
        have kept : inner ≠ .clear := by
          rintro rfl
          exact held rfl
        simpa only [after, if_true] using Slot.size?_after kept sized
      · simpa only [after, if_neg same] using sized
  | reserve other len align =>
      simp only [after]
      split <;> exact sized
  | reset => exact sized

/-- As long as nobody resets the cursor or gives up the region, the one does not go back and the other keeps its
size. -/
theorem run_keeps_size (kept : ∀ step ∈ steps, step ≠ .reset ∧ step ≠ .slot index .clear)
    (sized : (pool.slots index).size? = some size) :
    pool.cursor.used ≤ (pool.run steps).cursor.used ∧
      ((pool.run steps).slots index).size? = some size := by
  induction steps generalizing pool with
  | nil => exact ⟨UInt64.le_refl _, sized⟩
  | cons step rest ih =>
      obtain ⟨unreset, held⟩ := kept step List.mem_cons_self
      obtain ⟨further, sized⟩ := ih (fun other member => kept other (List.mem_cons_of_mem step member))
        (size?_after held sized)
      exact ⟨UInt64.le_trans (pool.used_le_after step unreset) further, sized⟩

end Pool

/-- Once a request has failed because the region is too full, every request that is no shorter and no less coarsely
aligned fails for the same reason, whatever has been done with the cursor meanwhile, as long as it has not been reset
and the region has not been given up. Of any two such failures, whichever requests they were of, the later one reports
no more bytes to be left. -/
theorem exhaustion_lasts (pool : Pool) (index : Nat) (len align requested left : UInt64) (cursor : Cursor)
    (failed : pool.reserve index len align = .error (.regionFull requested left) cursor)
    (steps : List Step) (kept : ∀ step ∈ steps, step ≠ .reset ∧ step ≠ .slot index .clear) :
    let later := pool.run steps
    (∀ wider coarser, Cursor.IsValid wider coarser → len ≤ wider → align ≤ coarser →
        ∃ fewer, later.reserve index wider coarser = .error (.regionFull wider fewer) later.cursor) ∧
      ∀ other coarse asked fewer after,
        later.reserve index other coarse = .error (.regionFull asked fewer) after → fewer ≤ left := by
  intro later
  obtain ⟨size, sized, exhausts, rfl⟩ := Cursor.exhausts_of_regionFull failed
  obtain ⟨further, sized⟩ := Pool.run_keeps_size kept sized
  constructor
  · intro wider coarser valid longer coarse
    have still := exhausts.lasts further longer coarse valid
    exact ⟨_, Cursor.reserve_exhausted sized still⟩
  · intro other coarse asked fewer after again
    obtain ⟨same, sized', _, rfl⟩ := Cursor.exhausts_of_regionFull again
    cases sized.symm.trans sized'
    exact Cursor.left_le size further

/-- The smaller of two regions is overtaken by what is reserved in the larger one. -/
theorem overtaken_region_stays_full :
    let region (size : UInt64) : Region := ⟨⟨0x10000, 0x80000, size⟩, 3, Bytes.zeros⟩
    let pool : Pool := ⟨.zero, fun index => ⟨some (region (if index = 0 then 4096 else 8192))⟩⟩
    let steps : List Step := [.reserve 1 6000 1, .reserve 0 16 1, .slot 1 .clear]
    pool.reserve 0 5000 1 = .error (.regionFull 5000 4096) .zero ∧
      (∀ step ∈ steps, step ≠ .reset ∧ step ≠ .slot 0 .clear) ∧
      Cursor.IsValid 5000 16 ∧
      ∃ fewer, (pool.run steps).reserve 0 5000 16 =
        .error (.regionFull 5000 fewer) (pool.run steps).cursor ∧ fewer ≤ 4096 := by
  intro region pool steps
  have whole : Cursor.left 4096 .zero = 4096 := by decide
  have exhausts : Cursor.Exhausts 4096 5000 1 .zero := ⟨⟨by decide, 0, rfl⟩, by decide⟩
  have full : Cursor.reserve (pool.slots 0) 5000 1 .zero = _ := Cursor.reserve_exhausted rfl exhausts
  have failed : pool.reserve 0 5000 1 = .error (.regionFull 5000 4096) .zero := by
    rw [Pool.reserve, EStateM.run, ← whole]
    exact full
  have kept : ∀ step ∈ steps, step ≠ .reset ∧ step ≠ .slot 0 .clear := by
    simp [steps]
  have valid : Cursor.IsValid 5000 16 := ⟨by decide, 4, rfl⟩
  obtain ⟨refused, fewer⟩ := exhaustion_lasts pool 0 5000 1 5000 4096 .zero failed steps kept
  obtain ⟨left, again⟩ := refused 5000 16 valid (by decide) (by decide)
  exact ⟨failed, kept, valid, left, again, fewer _ _ _ _ _ again⟩

end Sharing

end TwinView
