import Mathlib.Data.List.Perm.Basic
import TwinView.Memory.Holdings
import TwinView.Proofs.Memory.Making
import TwinView.Session

/-!
The slots of a process, beside what it holds of the host. A step on the holdings makes of a slot what the same
operation makes of the slot alone, where nothing is accounted for, and renewing makes of it what renewing makes of
the slot of a session. So what the ledger shows of a run is what slots and sessions cost wherever they are used.
-/

namespace TwinView

namespace Slot

/-- The slot after renewing its region. If there is none, the new one has the configured size. -/
def renewed (placement : Placement) (configured : UInt64) (slot : Slot) : Slot :=
  Slot.empty.after (.fill placement (slot.size?.getD configured))

section After

variable {placement : Placement} {size : UInt64} {region : Region}

theorem after_fill_filled : (⟨some region⟩ : Slot).after (.fill placement size) = ⟨some region⟩ := rfl

theorem after_fill_made (made : Region.ofAnswers (placement size) size = .ok region) :
    Slot.empty.after (.fill placement size) = ⟨some region⟩ := by
  have filled : (fill placement size).run .empty = .ok () ⟨some region⟩ := fill_made made
  simp only [after, perform, EStateM.run_bind, filled, EStateM.run_pure]

theorem after_fill_refused {fault : Fault} (refused : Region.ofAnswers (placement size) size = .error fault) :
    Slot.empty.after (.fill placement size) = .empty := by
  have failed : (fill placement size).run .empty = .error fault .empty := fill_refused refused
  simp only [after, perform, EStateM.run_bind, failed]

end After

end Slot

namespace Session

variable {H : Type} [Activation.Host H]

/-- A session hands its slot to the renewal and has it back with the new region, or empty. -/
theorem renew_slot (session : Session H) (placement : Placement) :
    (session.after (.renew placement)).slot = session.slot.renewed placement session.settings.regionSize := by
  let size := session.slot.size?.getD session.settings.regionSize
  let cleared : Session H := { session with slot := .empty, cursor := .zero }
  have filling : (renew placement).run session = (onSlot (Slot.fill placement size)).run cleared := rfl
  rw [after, perform, EStateM.run_bind, filling]
  cases made : Region.ofAnswers (placement size) size with
  | error fault =>
      have failed : Slot.fill placement size cleared.slot = .error fault .empty := Slot.fill_refused made
      simp only [EStateM.run, onSlot, failed]
      exact (Slot.after_fill_refused made).symm
  | ok region =>
      have filled : Slot.fill placement size cleared.slot = .ok () ⟨some region⟩ := Slot.fill_made made
      simp only [EStateM.run, onSlot, filled]
      exact (Slot.after_fill_made made).symm

end Session

namespace Holdings

/-- What a step makes of the slots, each taken alone. -/
def Step.onSlots : Step → List Slot → List Slot
  | .create _ _, slots | .destroy _, slots => slots
  | .fill index answers size, slots => slots.modify index (·.after (.fill (fun _ => answers) size))
  | .clear index, slots => slots.modify index (·.after .clear)
  | .renew index answers size, slots => slots.modify index (·.renewed (fun _ => answers) size)

def run (holdings : Holdings) (steps : List Step) : Holdings := steps.foldl perform holdings

theorem run_cons (holdings : Holdings) (step : Step) (rest : List Step) :
    holdings.run (step :: rest) = (holdings.perform step).run rest := rfl

section Slots

variable {holdings : Holdings} {index : Nat} {slot : Slot}

theorem modify_of_absent {change : Slot → Slot} (absent : holdings.slots[index]? = none) :
    holdings.slots.modify index change = holdings.slots := by
  rw [List.modify_eq_set_getElem?, absent]
  rfl

theorem modify_of_present {change : Slot → Slot} (there : holdings.slots[index]? = some slot) :
    holdings.slots.modify index change = holdings.slots.set index (change slot) := by
  rw [List.modify_eq_set_getElem?, there]
  rfl

theorem set_self (there : holdings.slots[index]? = some slot) : holdings.slots.set index slot = holdings.slots := by
  obtain ⟨within, rfl⟩ := List.getElem?_eq_some_iff.mp there
  exact List.set_getElem_self within

end Slots

theorem fill_slots (holdings : Holdings) (index : Nat) (answers : HostAnswers) (size : UInt64) :
    (holdings.fill index answers size).slots =
      holdings.slots.modify index (·.after (.fill (fun _ => answers) size)) := by
  cases there : holdings.slots[index]? with
  | none => rw [modify_of_absent there, fill, there]
  | some slot =>
      rw [modify_of_present there]
      rcases slot with ⟨_ | region⟩
      · cases made : Region.ofAnswers answers size with
        | error fault =>
            have kept : Slot.empty.after (.fill (fun _ => answers) size) = .empty := Slot.after_fill_refused made
            simp only [fill, there, Region.create_exact, made, Region.settled]
            exact ((congrArg _ kept).trans (set_self there)).symm
        | ok region =>
            have filled : Slot.empty.after (.fill (fun _ => answers) size) = ⟨some region⟩ :=
              Slot.after_fill_made made
            simp only [fill, there, Region.create_exact, made, Region.settled]
            exact congrArg _ filled.symm
      · rw [Slot.after_fill_filled, set_self there, fill, there]

theorem clear_slots (holdings : Holdings) (index : Nat) :
    (holdings.clear index).slots = holdings.slots.modify index (·.after .clear) := by
  cases there : holdings.slots[index]? with
  | none => rw [modify_of_absent there, clear, there]
  | some slot =>
      rw [modify_of_present there]
      rcases slot with ⟨_ | region⟩
      · rw [clear, there]
        exact (set_self there).symm
      · rw [clear, there]
        rfl

theorem renew_slots (holdings : Holdings) (index : Nat) (answers : HostAnswers) (size : UInt64) :
    (holdings.perform (.renew index answers size)).slots =
      holdings.slots.modify index (·.renewed (fun _ => answers) size) := by
  rw [perform, fill_slots, clear_slots]
  cases there : holdings.slots[index]? with
  | none =>
      rw [modify_of_absent there, modify_of_absent there, modify_of_absent there]
  | some slot =>
      rw [List.modify_modify_eq, modify_of_present there, modify_of_present there]
      rfl

theorem perform_slots (holdings : Holdings) (step : Step) :
    (holdings.perform step).slots = step.onSlots holdings.slots := by
  cases step with
  | create answers size =>
      rw [perform, create, Region.create_exact]
      cases Region.ofAnswers answers size <;> rfl
  | destroy index =>
      rw [perform, destroy]
      split <;> rfl
  | fill index answers size => exact holdings.fill_slots index answers size
  | clear index => exact holdings.clear_slots index
  | renew index answers size => exact holdings.renew_slots index answers size

theorem run_slots (holdings : Holdings) (steps : List Step) :
    (holdings.run steps).slots = steps.foldl (fun slots step => step.onSlots slots) holdings.slots := by
  induction steps generalizing holdings with
  | nil => rfl
  | cons step rest ih => rw [run_cons, ih, perform_slots, List.foldl_cons]

end Holdings

end TwinView
