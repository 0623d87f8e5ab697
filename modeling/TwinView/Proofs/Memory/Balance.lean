import Mathlib.Data.List.Perm.Basic
import TwinView.Proofs.Memory.Custody

/-!
What a process holds of the host, counted against its regions. Making a region takes one descriptor and two
mappings, and giving it up gives back these and nothing else; an attempt that fails gives back what it had
taken. There are two exceptions: a size that no file can have is refused after the descriptor has been opened,
and a mapping at address zero is turned down after it has been made. These stay for good.
-/

namespace TwinView

namespace Region

def mappings (region : Region) : List (UInt64 × UInt64) :=
  [(region.views.writableBase, region.size), (region.views.executableBase, region.size)]

theorem release_hold (region : Region) (ledger : Ledger) :
    region.release (region.hold ledger) = ledger := by
  by_cases same : region.views.writableBase = region.views.executableBase
  · simp [release, hold, same]
  · -- The views are unmapped in the order in which they were mapped, so the second is taken out from below.
    have different := Ne.symm same
    simp [release, hold, Ledger.openDescriptor, Ledger.closeDescriptor, Ledger.map, Ledger.unmap,
      different]

section Stranded

variable {answers : HostAnswers} {size : UInt64}

theorem atZero_iff {place : Except Int UInt64} : atZero place = true ↔ place = .ok 0 := by
  cases place <;> simp [atZero]

theorem stranded_descriptors_iff : (stranded answers size).descriptors ≠ [] ↔
    fileLimit ≤ size ∧ ∃ descriptor, answers.descriptor = .ok descriptor := by
  rcases answers with ⟨errno | descriptor, resized, written, executed⟩
  · simp [stranded, Ledger.empty]
  by_cases zero : size = 0
  · have within : ¬ fileLimit ≤ (0 : UInt64) := by decide
    simp [stranded, Ledger.empty, zero, within]
  by_cases beyond : fileLimit ≤ size
  · simp [stranded, zero, beyond]
  · simp only [stranded, zero, beyond, if_false]
    split
    · split <;> simp [Ledger.empty]
    · simp [Ledger.empty]

theorem stranded_mappings_iff : (stranded answers size).mappings ≠ [] ↔
    Creatable size ∧ (∃ descriptor, answers.descriptor = .ok descriptor) ∧ answers.resize = .ok () ∧
      ∃ writable, answers.writable = .ok writable ∧ (writable = 0 ∨ answers.executable = .ok 0) := by
  rcases answers with ⟨errno | descriptor, resized, written, executed⟩
  · simp [stranded, Ledger.empty]
  by_cases zero : size = 0
  · have impossible : ¬ Creatable size := fun creatable => creatable.nonempty zero
    simp [stranded, Ledger.empty, zero, zero ▸ impossible]
  by_cases beyond : fileLimit ≤ size
  · have impossible : ¬ Creatable size := fun creatable => UInt64.not_le.mpr creatable.limited beyond
    simp [stranded, zero, beyond, impossible]
  · have creatable : Creatable size := ⟨zero, UInt64.not_le.mp beyond⟩
    rcases resized with errno | _
    · simp [stranded, Ledger.empty, zero, beyond]
    rcases written with errno | base
    · simp [stranded, Ledger.empty, zero, beyond]
    · by_cases useless : base = 0 ∨ executed = .ok 0 <;>
        simp [stranded, Ledger.empty, zero, beyond, atZero_iff, creatable, useless]

end Stranded

end Region

namespace Ledger

theorem strand_strand (ledger first second : Ledger) :
    (ledger.strand first).strand second = ledger.strand (first.strand second) := by
  simp [strand]

theorem eq_empty_iff {ledger : Ledger} :
    ledger = .empty ↔ ledger.descriptors = [] ∧ ledger.mappings = [] := by
  cases ledger
  simp [empty]

/-- The ledger shows what the regions hold, and what is stranded besides. -/
structure Shows (ledger : Ledger) (regions : List Region) (stranded : Ledger) : Prop where
  descriptors : ledger.descriptors.Perm (regions.map Region.backing ++ stranded.descriptors)
  mappings : ledger.mappings.Perm (regions.flatMap Region.mappings ++ stranded.mappings)

variable {ledger stranded : Ledger} {regions others : List Region} {region : Region}

theorem Shows.perm (shown : ledger.Shows regions stranded) (same : regions.Perm others) :
    ledger.Shows others stranded where
  descriptors := shown.descriptors.trans ((same.map _).append_right _)
  mappings := shown.mappings.trans ((same.flatMap_right _).append_right _)

theorem Shows.strand (shown : ledger.Shows regions stranded) (left : Ledger) :
    (ledger.strand left).Shows regions (stranded.strand left) where
  descriptors := (shown.descriptors.append_left _).trans (List.perm_append_comm_assoc _ _ _)
  mappings := (shown.mappings.append_left _).trans (List.perm_append_comm_assoc _ _ _)

theorem Shows.hold (shown : ledger.Shows regions stranded) :
    (region.hold ledger).Shows (region :: regions) stranded where
  descriptors := shown.descriptors.cons region.backing
  mappings := ((shown.mappings.cons _).cons _).trans (List.Perm.swap _ _ _)

theorem Shows.release (shown : ledger.Shows (region :: regions) stranded) :
    (region.release ledger).Shows regions stranded where
  descriptors := by
    have given := shown.descriptors.erase region.backing
    rwa [List.map_cons, List.cons_append, List.erase_cons_head] at given
  mappings := by
    have given := (shown.mappings.erase (region.views.writableBase, region.size)).erase
      (region.views.executableBase, region.size)
    rwa [List.flatMap_cons, Region.mappings, List.append_assoc, List.cons_append, List.erase_cons_head,
      List.cons_append, List.erase_cons_head] at given

end Ledger

namespace Holdings

def regions (holdings : Holdings) : List Region :=
  holdings.loose ++ holdings.slots.filterMap Slot.region

theorem live_eq (holdings : Holdings) : holdings.live = holdings.regions.length := by
  rw [live, regions, List.length_append, List.length_filterMap_eq_countP]
  rfl

def strandedByFill (slot : Nat) (answers : HostAnswers) (size : UInt64) (holdings : Holdings) : Ledger :=
  match holdings.slots[slot]? with
  | some ⟨none⟩ => Region.stranded answers size
  | _ => .empty

/-- What a step leaves with the host for good. -/
def strandedBy (holdings : Holdings) : Step → Ledger
  | .create answers size => Region.stranded answers size
  | .fill slot answers size => holdings.strandedByFill slot answers size
  | .renew slot answers size =>
      let kept := (holdings.slots[slot]?.bind Slot.size?).getD size
      (holdings.clear slot).strandedByFill slot answers kept
  | .destroy _ | .clear _ => .empty

/-- What a run leaves with the host for good, the latest first. -/
def stranded (holdings : Holdings) : List Step → Ledger
  | [] => .empty
  | step :: rest => (holdings.strandedBy step).strand ((holdings.perform step).stranded rest)

theorem filterMap_region_cons (slot : Slot) (slots : List Slot) :
    (slot :: slots).filterMap Slot.region = slot.region.toList ++ slots.filterMap Slot.region := by
  cases owned : slot.region <;> simp [owned]

/-- Replacing a slot trades the region of the old one for that of the new one. -/
theorem filterMap_set {slots : List Slot} {slot : Nat} {old : Slot} (new : Slot)
    (there : slots[slot]? = some old) :
    (old.region.toList ++ (slots.set slot new).filterMap Slot.region).Perm
      (new.region.toList ++ slots.filterMap Slot.region) := by
  obtain ⟨within, rfl⟩ := List.getElem?_eq_some_iff.mp there
  -- Up to their order, both lists are the other slots with one more.
  have others := List.perm_append_comm_assoc slots[slot].region.toList new.region.toList
    ((slots.eraseIdx slot).filterMap Slot.region)
  have replaced := (List.set_perm_cons_eraseIdx within new).filterMap Slot.region
  have original := (List.getElem_cons_eraseIdx_perm within).filterMap Slot.region
  rw [filterMap_region_cons] at replaced original
  exact ((replaced.append_left _).trans others).trans (original.append_left _)

/-- The ledger shows the regions that are there, and what is stranded besides. -/
def Accounted (holdings : Holdings) (stranded : Ledger) : Prop :=
  holdings.ledger.Shows holdings.regions stranded

theorem empty_accounted (slots : Nat) : (empty slots).Accounted .empty := by
  have none : (empty slots).regions = [] := by
    simp [regions, empty, Slot.empty]
  rw [Accounted, none]
  exact ⟨List.Perm.nil, List.Perm.nil⟩

section Steps

variable {holdings : Holdings} {stranded : Ledger}

theorem Accounted.create (accounted : holdings.Accounted stranded) (answers : HostAnswers)
    (size : UInt64) :
    (holdings.create answers size).Accounted (stranded.strand (Region.stranded answers size)) := by
  rw [Holdings.create, Region.create_exact]
  cases made : Region.ofAnswers answers size with
  | error fault => exact accounted.strand _
  | ok region =>
      rw [Region.stranded_of_made made]
      exact accounted.hold

theorem Accounted.destroy (accounted : holdings.Accounted stranded) (index : Nat) :
    (holdings.destroy index).Accounted stranded := by
  cases there : holdings.loose[index]? with
  | none => rwa [Holdings.destroy, there]
  | some region =>
      rw [Holdings.destroy, there]
      obtain ⟨within, rfl⟩ := List.getElem?_eq_some_iff.mp there
      have apart := (List.getElem_cons_eraseIdx_perm within).append_right
        (holdings.slots.filterMap Slot.region)
      exact (accounted.perm apart.symm).release

theorem Accounted.fill (accounted : holdings.Accounted stranded) (slot : Nat)
    (answers : HostAnswers) (size : UInt64) :
    (holdings.fill slot answers size).Accounted
      (stranded.strand (holdings.strandedByFill slot answers size)) := by
  cases there : holdings.slots[slot]? with
  | none => rwa [Holdings.fill, strandedByFill, there]
  | some taken =>
      rcases taken with ⟨none | region⟩
      · rw [Holdings.fill, strandedByFill, there, Region.create_exact]
        cases made : Region.ofAnswers answers size with
        | error fault => exact accounted.strand _
        | ok region =>
            rw [Region.stranded_of_made made]
            have added := (filterMap_set ⟨some region⟩ there).append_left holdings.loose
            exact accounted.hold.perm (added.trans List.perm_middle).symm
      · rwa [Holdings.fill, strandedByFill, there]

theorem Accounted.clear (accounted : holdings.Accounted stranded) (slot : Nat) :
    (holdings.clear slot).Accounted stranded := by
  rw [Holdings.clear]
  split
  next region there =>
    have taken := (filterMap_set Slot.empty there).append_left holdings.loose
    exact (accounted.perm (List.perm_middle.symm.trans taken).symm).release
  next => exact accounted

theorem Accounted.perform (accounted : holdings.Accounted stranded) (step : Step) :
    (holdings.perform step).Accounted (stranded.strand (holdings.strandedBy step)) := by
  cases step with
  | create answers size => exact accounted.create answers size
  | destroy index => exact accounted.destroy index
  | fill slot answers size => exact accounted.fill slot answers size
  | clear slot => exact accounted.clear slot
  | renew slot answers size => exact (accounted.clear slot).fill slot answers _

theorem Accounted.run (accounted : holdings.Accounted stranded) (steps : List Step) :
    (holdings.run steps).Accounted (stranded.strand (holdings.stranded steps)) := by
  induction steps generalizing holdings stranded with
  | nil => exact accounted
  | cons step rest kept =>
      rw [run_cons, Holdings.stranded, ← Ledger.strand_strand]
      exact kept (accounted.perform step)

theorem Accounted.descriptors_length (accounted : holdings.Accounted stranded) :
    holdings.ledger.descriptors.length = holdings.live + stranded.descriptors.length := by
  rw [accounted.descriptors.length_eq, List.length_append, List.length_map, live_eq]

theorem Accounted.mappings_length (accounted : holdings.Accounted stranded) :
    holdings.ledger.mappings.length = 2 * holdings.live + stranded.mappings.length := by
  have twice : ∀ region : Region, region.mappings.length = 2 := fun _ => rfl
  rw [accounted.mappings.length_eq, List.length_append, List.length_flatMap, live_eq]
  simp [twice, Nat.mul_comm]

theorem Accounted.balanced_iff (accounted : holdings.Accounted stranded) :
    holdings.IsBalanced ↔ stranded = .empty := by
  have descriptors := accounted.descriptors_length
  have mappings := accounted.mappings_length
  rw [Ledger.eq_empty_iff, ← List.length_eq_zero_iff, ← List.length_eq_zero_iff, IsBalanced]
  omega

end Steps

/-- An attempt that fails leaves the ledger as it was, and one that succeeds adds one descriptor and two mappings,
which are given back together, but for two kinds of failure: a size that no file can have, once a descriptor is
open for it, costs this descriptor, and a mapping at address zero costs this mapping. In every run the ledger shows
the live regions and what such attempts have cost, so it is balanced exactly if there was none. The slots of the
run are what filling, clearing and renewing make of each slot alone. -/
theorem balanced_iff_none_stranded (answers : HostAnswers) (size : UInt64) (ledger : Ledger)
    (slots : Nat) (steps : List Step) :
    ((∃ fault, (Region.create answers size).run ledger =
        .error fault (ledger.strand (Region.stranded answers size))) ∨
      ∃ region, Region.stranded answers size = .empty ∧
        (Region.create answers size).run ledger = .ok region (region.hold ledger) ∧
        region.release (region.hold ledger) = ledger) ∧
    ((Region.stranded answers size).descriptors ≠ [] ↔
      Region.fileLimit ≤ size ∧ ∃ descriptor, answers.descriptor = .ok descriptor) ∧
    ((Region.stranded answers size).mappings ≠ [] ↔
      Region.Creatable size ∧ (∃ descriptor, answers.descriptor = .ok descriptor) ∧ answers.resize = .ok () ∧
        ∃ writable, answers.writable = .ok writable ∧ (writable = 0 ∨ answers.executable = .ok 0)) ∧
    let final := (empty slots).run steps
    let stranded := (empty slots).stranded steps
    final.ledger.descriptors.length = final.live + stranded.descriptors.length ∧
      final.ledger.mappings.length = 2 * final.live + stranded.mappings.length ∧
      (final.IsBalanced ↔ stranded = .empty) ∧
      final.slots = steps.foldl (fun slots step => step.onSlots slots) (List.replicate slots .empty) ∧
      ∀ (H : Type) [Activation.Host H] (session : Session H) (placement : Placement),
        (session.after (.renew placement)).slot =
          session.slot.renewed placement session.settings.regionSize := by
  refine ⟨?_, Region.stranded_descriptors_iff, Region.stranded_mappings_iff, ?_⟩
  · rw [Region.create_exact]
    cases made : Region.ofAnswers answers size with
    | error fault => exact Or.inl ⟨fault, rfl⟩
    | ok region => exact Or.inr ⟨region, Region.stranded_of_made made, rfl, region.release_hold ledger⟩
  · intro final stranded
    have accounted : final.Accounted stranded := by
      have shown := (empty_accounted slots).run steps
      rwa [Ledger.empty_strand] at shown
    refine ⟨accounted.descriptors_length, accounted.mappings_length, accounted.balanced_iff, ?_, ?_⟩
    · exact (empty slots).run_slots steps
    · intro H _ session placement
      exact session.renew_slot placement

theorem oversized_attempt_unbalanced :
    let answers := Placement.addressSpace 3 0x7f0000000000 0x7f0000001000 Region.fileLimit
    ¬ ((empty 1).run [.fill 0 answers Region.fileLimit]).IsBalanced := by
  intro answers
  rw [(balanced_iff_none_stranded answers Region.fileLimit .empty 1 _).2.2.2.2.2.1]
  decide

end Holdings

end TwinView
