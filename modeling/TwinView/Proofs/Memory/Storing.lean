import TwinView.Proofs.Memory.Range

/-!
The two ways to put code into a region. Writing takes an executable address and checks the range behind it,
placing takes an offset and checks where the code would end. An address is as good as its distance from the
base, so both accept the same code at the same place and leave the same bytes. They differ for nothing at all
behind the last byte: a range must begin inside the view, also an empty one, while an empty end may lie there.
-/

namespace TwinView

namespace Slot

def Succeeds (result : EStateM.Result Fault Slot Unit) : Prop :=
  ∃ next, result = .ok () next

section Outcomes

variable {accepted : Prop} [Decidable accepted] {slot next later : Slot} {fault cause : Fault}

theorem succeeds_ite : Succeeds (if accepted then .ok () next else .error fault slot) ↔ accepted := by
  unfold Succeeds
  split <;> simp [*]

theorem of_ite_ok (done : (if accepted then .ok () next else .error fault slot) =
    EStateM.Result.ok () later) : accepted ∧ next = later := by
  split at done
  next accepts =>
    cases done
    exact ⟨accepts, rfl⟩
  next => cases done

theorem of_ite_error (failed : (if accepted then .ok () next else .error fault slot) =
    (EStateM.Result.error cause later : EStateM.Result Fault Slot Unit)) : later = slot := by
  split at failed <;> cases failed
  rfl

end Outcomes

theorem run_write (region : Region) (offset : UInt64) (code : Code) :
    (write (region.base .executable + offset) code).run ⟨some region⟩ =
      if offset.toNat < region.size.toNat ∧
          offset.toNat + code.bytes.length ≤ region.size.toNat then
        .ok () ⟨some (region.store offset code)⟩
      else
        .error (.foreignAddress
          (region.views.strayAddress (region.base .executable + offset) code.size)) ⟨some region⟩ := by
  apply run_onRegion
  rw [Region.write_exact, Word.add_sub_base]
  simp only [Region.covers_relative, Code.size_toNat]

theorem run_place (region : Region) (offset : UInt64) (code : Code) :
    (place code offset).run ⟨some region⟩ =
      if offset.toNat + code.bytes.length ≤ region.size.toNat then
        .ok () ⟨some (region.store offset code)⟩
      else .error (.foreignAddress (region.base .writable + offset)) ⟨some region⟩ :=
  run_onRegion (region.place_exact code offset)

/-- For every content, offset and code, writing at the address of the offset and placing at the offset both succeed
or both fail, but for nothing placed right behind the last byte, which only writing refuses. Code that is
not empty is accepted exactly if it ends within the region. Both leave the same region: it shows the code at
the offset through either view and every other byte as before. A refusal changes nothing. -/
theorem stores_agree (region : Region) (offset : UInt64) (code : Code) :
    let written := (write (region.base .executable + offset) code).run ⟨some region⟩
    let placed := (place code offset).run ⟨some region⟩
    let fits := offset.toNat + code.bytes.length ≤ region.size.toNat
    ((Succeeds written ↔ Succeeds placed) ↔ ¬ (code.bytes = [] ∧ offset = region.size)) ∧
      (code.bytes = [] → offset = region.size → Succeeds placed ∧ ¬ Succeeds written) ∧
      (code.bytes ≠ [] → (Succeeds written ↔ fits) ∧ (Succeeds placed ↔ fits)) ∧
      (∀ next, written = .ok () next → placed = .ok () next) ∧
      (∀ next, placed = .ok () next →
        ∃ later, next = ⟨some later⟩ ∧ later.views = region.views ∧
          ∀ view,
            later.read view (region.base view + offset) code.bytes.length = some code.bytes ∧
            ∀ place < region.size,
              ¬ (offset ≤ place ∧ place.toNat < offset.toNat + code.bytes.length) →
                later.load view (region.base view + place) =
                  region.load view (region.base view + place)) ∧
      ∀ fault next, written = .error fault next ∨ placed = .error fault next →
        next = ⟨some region⟩ := by
  intro written placed fits
  have writes : Succeeds written ↔ offset.toNat < region.size.toNat ∧ fits := by
    simp only [written, run_write, succeeds_ite, fits]
  have places : Succeeds placed ↔ fits := by
    simp only [placed, run_place, succeeds_ite, fits]
  have length_eq_zero : code.bytes = [] ↔ code.bytes.length = 0 := List.length_eq_zero_iff.symm
  have offset_eq : offset = region.size ↔ offset.toNat = region.size.toNat := UInt64.toNat_inj.symm
  refine ⟨?_, ?_, ?_, ?_, ?_, ?_⟩
  -- Both want the end to fit. Only writing wants the start inside too, which code with a byte in it has anyway
  -- if its end fits, so that nothing placed at the very end is all they part at.
  · rw [writes, places, length_eq_zero, offset_eq]
    omega
  · rw [writes, places, length_eq_zero, offset_eq]
    omega
  · rw [writes, places, Ne, length_eq_zero]
    omega
  · intro next done
    simp only [written, placed, run_write, run_place] at done ⊢
    obtain ⟨⟨_, ends⟩, rfl⟩ := of_ite_ok done
    exact if_pos ends
  · intro next done
    simp only [placed, run_place] at done
    obtain ⟨ends, rfl⟩ := of_ite_ok done
    refine ⟨_, rfl, rfl, ?_⟩
    intro view
    exact ⟨Region.read_store ends, fun _ inside outside => Region.load_store_outside inside outside⟩
  · rintro fault next (failed | failed)
    · simp only [written, run_write] at failed
      exact of_ite_error failed
    · simp only [placed, run_place] at failed
      exact of_ite_error failed

end Slot

end TwinView
