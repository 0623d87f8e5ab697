import TwinView.Memory.Slot

/-!
The regions of a process with what they hold of the host. Some regions stand alone, others are in slots; the
ledger is shared. A region holds one descriptor and two mappings, which are given back when its owner gives
it up.
-/

namespace TwinView

structure Holdings where
  ledger : Ledger
  loose : List Region
  slots : List Slot

namespace Holdings

inductive Step where
  | create (answers : HostAnswers) (size : UInt64)
  | destroy (index : Nat)
  | fill (slot : Nat) (answers : HostAnswers) (size : UInt64)
  | clear (slot : Nat)
  /-- Clears the slot and fills it with the same size, or with the given one if it was empty. -/
  | renew (slot : Nat) (answers : HostAnswers) (size : UInt64)

def empty (slots : Nat) : Holdings := ⟨.empty, [], List.replicate slots .empty⟩

def live (holdings : Holdings) : Nat :=
  holdings.loose.length + holdings.slots.countP Slot.isFilled

/-- One descriptor for each region and two mappings. -/
def IsBalanced (holdings : Holdings) : Prop :=
  holdings.ledger.descriptors.length = holdings.live ∧
    holdings.ledger.mappings.length = 2 * holdings.live

def create (answers : HostAnswers) (size : UInt64) (holdings : Holdings) : Holdings :=
  match (Region.create answers size).run holdings.ledger with
  | .ok region ledger => { holdings with ledger := ledger, loose := region :: holdings.loose }
  | .error _ ledger => { holdings with ledger := ledger }

def destroy (index : Nat) (holdings : Holdings) : Holdings :=
  match holdings.loose[index]? with
  | some region =>
      { holdings with
        ledger := region.release holdings.ledger
        loose := holdings.loose.eraseIdx index }
  | none => holdings

def fill (slot : Nat) (answers : HostAnswers) (size : UInt64) (holdings : Holdings) : Holdings :=
  match holdings.slots[slot]? with
  | some ⟨none⟩ =>
      match (Region.create answers size).run holdings.ledger with
      | .ok region ledger =>
          { holdings with ledger := ledger, slots := holdings.slots.set slot ⟨some region⟩ }
      | .error _ ledger => { holdings with ledger := ledger }
  | _ => holdings

def clear (slot : Nat) (holdings : Holdings) : Holdings :=
  match holdings.slots[slot]? with
  | some ⟨some region⟩ =>
      { holdings with
        ledger := region.release holdings.ledger
        slots := holdings.slots.set slot .empty }
  | _ => holdings

def perform (holdings : Holdings) : Step → Holdings
  | .create answers size => holdings.create answers size
  | .destroy index => holdings.destroy index
  | .fill slot answers size => holdings.fill slot answers size
  | .clear slot => holdings.clear slot
  | .renew slot answers size =>
      let kept := (holdings.slots[slot]?.bind Slot.size?).getD size
      (holdings.clear slot).fill slot answers kept

end Holdings

end TwinView
