import TwinView.Memory.Creation

/-!
A slot owns at most one region. It is filled once: while a region is there, filling it again succeeds and
changes nothing, whatever size is asked for. A failed attempt leaves the slot empty, so that a later one may
succeed. Looking up, writing and synchronizing need a region.
-/

namespace TwinView

structure Slot where
  region : Option Region

namespace Slot

def empty : Slot := ⟨none⟩

def isFilled (slot : Slot) : Bool := slot.region.isSome

def size? (slot : Slot) : Option UInt64 := slot.region.map Region.size

def base? (slot : Slot) (view : View) : Option UInt64 := slot.region.map (·.base view)

def fill (placement : Placement) (size : UInt64) : EStateM Fault Slot Unit := fun slot =>
  if slot.isFilled then .ok () slot
  else
    match Region.ofAnswers (placement size) size with
    | .ok region => .ok () ⟨some region⟩
    | .error fault => .error fault slot

/-- Gives up the region; whether there was one. -/
def clear : StateM Slot Bool := do
  let slot ← get
  set empty
  pure slot.isFilled

def owned (slot : Slot) : Except Fault Region :=
  match slot.region with
  | some region => .ok region
  | none => .error .noRegion

def counterpart (slot : Slot) (view : View) (address : UInt64) : Except Fault UInt64 :=
  slot.owned.bind (·.views.across view address)

def onRegion (operation : EStateM Fault Region Unit) : EStateM Fault Slot Unit := fun
  | ⟨none⟩ => .error .noRegion ⟨none⟩
  | ⟨some region⟩ =>
      match operation region with
      | .ok () next => .ok () ⟨some next⟩
      | .error fault next => .error fault ⟨some next⟩

def write (exec : UInt64) (code : Code) : EStateM Fault Slot Unit :=
  onRegion (Region.write exec code)

def place (code : Code) (offset : UInt64) : EStateM Fault Slot Unit :=
  onRegion (Region.place code offset)

def synchronize (exec len : UInt64) : EStateM Fault Slot Unit :=
  onRegion (Region.synchronize exec len)

inductive Step where
  | fill (placement : Placement) (size : UInt64)
  | clear
  | counterpart (view : View) (address : UInt64)
  | synchronize (exec len : UInt64)
  | write (exec : UInt64) (code : Code)
  | place (code : Code) (offset : UInt64)

inductive Answer where
  | done
  | existed (answer : Bool)
  | address (address : UInt64)
  deriving DecidableEq

def perform : Step → EStateM Fault Slot Answer
  | .fill placement size => do fill placement size; pure .done
  | .clear => fun slot => let (existed, next) := clear.run slot; .ok (.existed existed) next
  | .counterpart view address => do
      match (← get).counterpart view address with
      | .ok found => pure (.address found)
      | .error fault => throw fault
  | .synchronize exec len => do synchronize exec len; pure .done
  | .write exec code => do write exec code; pure .done
  | .place code offset => do place code offset; pure .done

/-- The slot after a step, whether it failed or not. -/
def after (slot : Slot) (step : Step) : Slot :=
  match (perform step).run slot with
  | .ok _ next | .error _ next => next

def outline (slot : Slot) : Text.Outline :=
  .record "RegionManager" [("region", .ofOption (slot.region.map Region.outline))]

end Slot

end TwinView
