import TwinView.Memory.Bytes
import TwinView.Memory.Code
import TwinView.Memory.ViewPair
import TwinView.Word

/-!
A region: one block of bytes, the places of its two views, and the descriptor that keeps it alive.
-/

namespace TwinView

structure Region where
  views : ViewPair
  backing : Int
  content : Bytes

namespace Region

def size (region : Region) : UInt64 := region.views.size

def base (region : Region) (view : View) : UInt64 := region.views.base view

def pointer (region : Region) (view : View) (offset : UInt64) : Except Fault UInt64 :=
  if region.size ≤ offset then .error (.foreignAddress (region.base view + offset))
  else .ok (region.base view + offset)

/-- The byte that a load from the address gives, if the address lies in the view. -/
def load (region : Region) (view : View) (address : UInt64) : Option UInt8 :=
  match region.views.offset view address with
  | .ok offset => some (region.content.byteAt offset.toNat)
  | .error _ => none

def store (region : Region) (offset : UInt64) (code : Code) : Region :=
  { region with content := region.content.store offset.toNat code.bytes }

/-- Makes stored bytes visible to instruction fetch. Both views are of the same bytes and fetch follows
the data here, so nothing changes. -/
def flush (region : Region) (_exec _len : UInt64) : Region := region

def place (code : Code) (offset : UInt64) : EStateM Fault Region Unit := fun region =>
  match Word.add? offset code.size with
  | some finish =>
      if finish ≤ region.size then .ok () (region.store offset code)
      else .error (.foreignAddress (region.base .writable + offset)) region
  | none => .error (.foreignAddress (region.base .writable + offset)) region

/-- Copies the code to the writable counterpart of an executable address. -/
def write (exec : UInt64) (code : Code) : EStateM Fault Region Unit := fun region =>
  match region.views.rangeAcross exec code.size with
  | .ok address => .ok () (region.store (address - region.base .writable) code)
  | .error fault => .error fault region

/-- Makes a range of the executable view coherent. A refused range is not touched. -/
def synchronize (exec len : UInt64) : EStateM Fault Region Unit := fun region =>
  match region.views.rangeOffset exec len with
  | .ok _ => .ok () (region.flush exec len)
  | .error fault => .error fault region

def outline (region : Region) : Text.Outline :=
  .record "MappedRegion"
    [("writable", .quoted (Text.hexadecimal (region.base .writable).toNat)),
     ("executable", .quoted (Text.hexadecimal (region.base .executable).toNat)),
     ("size", .word (Text.decimal region.size.toNat)),
     ("backing", .word (Text.signedDecimal region.backing))]

end Region

end TwinView
