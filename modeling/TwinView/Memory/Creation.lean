import TwinView.Memory.Region

/-!
Making and releasing a region. It takes a descriptor for the block and two mappings of it. The host may
refuse each of the calls, and what had been taken before is given back then. Two attempts keep something: a
size beyond the signed file range is noticed only once the descriptor is open, and that descriptor stays open;
and a mapping that comes to lie at address zero is turned down, but it stays where it is.
-/

namespace TwinView

/-- The host's answers to the calls that make one region: a value, or an error number. -/
structure HostAnswers where
  descriptor : Except Int Int
  resize : Except Int Unit
  writable : Except Int UInt64
  executable : Except Int UInt64

abbrev Placement := UInt64 → HostAnswers

/-- Descriptors that are open and mappings that are live, each with its base and its size. -/
structure Ledger where
  descriptors : List Int
  mappings : List (UInt64 × UInt64)
  deriving DecidableEq

namespace Ledger

def empty : Ledger := ⟨[], []⟩

def openDescriptor (descriptor : Int) (ledger : Ledger) : Ledger :=
  { ledger with descriptors := descriptor :: ledger.descriptors }

def closeDescriptor (descriptor : Int) (ledger : Ledger) : Ledger :=
  { ledger with descriptors := ledger.descriptors.erase descriptor }

def map (base size : UInt64) (ledger : Ledger) : Ledger :=
  { ledger with mappings := (base, size) :: ledger.mappings }

def unmap (base size : UInt64) (ledger : Ledger) : Ledger :=
  { ledger with mappings := ledger.mappings.erase (base, size) }

end Ledger

namespace Region

/-- The sizes that a file offset can hold. -/
def fileLimit : UInt64 := 0x8000000000000000

def answer {α : Type} (operation : String) : Except Int α → EStateM Fault Ledger α
  | .ok value => pure value
  | .error errno => throw (.ofRefusal operation errno)

/-- Answers of calls after the first; on a refusal `undo` gives back what was taken. -/
def answerOr {α : Type} (undo : Ledger → Ledger) (operation : String) :
    Except Int α → EStateM Fault Ledger α
  | .ok value => pure value
  | .error errno => do
      modify undo
      throw (.ofRefusal operation errno)

/-- The address of a new mapping. Zero is no address for a view and is reported like a lack of memory; what
had been taken before is given back then, and the mapping itself is not. -/
def mapped (undo : Ledger → Ledger) (operation : String) (size : UInt64) (place : Except Int UInt64) :
    EStateM Fault Ledger UInt64 := do
  let base ← answerOr undo operation place
  modify (Ledger.map base size)
  if base = 0 then
    modify undo
    throw (.hostExhausted operation Errno.outOfMemory)
  pure base

def create (answers : HostAnswers) (size : UInt64) : EStateM Fault Ledger Region := do
  if size = 0 then throw (.badSize size)
  let descriptor ← answer "memfd_create" answers.descriptor
  modify (Ledger.openDescriptor descriptor)
  if fileLimit ≤ size then throw (.badSize size)
  answerOr (Ledger.closeDescriptor descriptor) "ftruncate" answers.resize
  let writable ← mapped (Ledger.closeDescriptor descriptor) "mmap(RW)" size answers.writable
  let executable ← mapped (Ledger.closeDescriptor descriptor ∘ Ledger.unmap writable size) "mmap(RX)" size
    answers.executable
  pure ⟨⟨writable, executable, size⟩, descriptor, Bytes.zeros⟩

def release (region : Region) (ledger : Ledger) : Ledger :=
  ((ledger.unmap region.views.writableBase region.size).unmap
    region.views.executableBase region.size).closeDescriptor region.backing

/-- The outcome of making a region, whatever else the process holds. -/
def ofAnswers (answers : HostAnswers) (size : UInt64) : Except Fault Region :=
  match (create answers size).run Ledger.empty with
  | .ok region _ => .ok region
  | .error fault _ => .error fault

end Region

namespace Placement

/-- A host with an address space of `2 ^ 47` bytes and views at fixed places. One view must be smaller
than the address space, and two views must fit into it together. -/
def addressSpace (descriptor : Int) (writable executable : UInt64) : Placement := fun size =>
  { descriptor := .ok descriptor
    resize := .ok ()
    writable := if size < 0x800000000000 then .ok writable else .error Errno.outOfMemory
    executable := if size < 0x400000000000 then .ok executable else .error Errno.outOfMemory }

end Placement

end TwinView
