import TwinView.Fault

/-!
The two views of one block. Both cover the same number of bytes, so going from one to the other is a
constant distance. Addresses outside are refused and never carried into other memory.
-/

namespace TwinView

inductive View where
  | writable
  | executable
  deriving DecidableEq

def View.other : View → View
  | .writable => .executable
  | .executable => .writable

@[simp]
theorem View.other_other (view : View) : view.other.other = view := by
  cases view <;> rfl

structure ViewPair where
  writableBase : UInt64
  executableBase : UInt64
  size : UInt64
  deriving DecidableEq

namespace ViewPair

def base (views : ViewPair) : View → UInt64
  | .writable => views.writableBase
  | .executable => views.executableBase

/-- How far the address lies behind the base of the view. The difference wraps, so an address in front of
the base gives a huge offset and one comparison covers both ends. -/
def offset (views : ViewPair) (view : View) (address : UInt64) : Except Fault UInt64 :=
  if address - views.base view < views.size then .ok (address - views.base view)
  else .error (.foreignAddress address)

/-- The address of the same byte in the other view. -/
def across (views : ViewPair) (view : View) (address : UInt64) : Except Fault UInt64 :=
  (views.offset view address).map (views.base view.other + ·)

/-- The offset of a range that lies inside the executable view as a whole. An empty range only needs a
start inside. -/
def rangeOffset (views : ViewPair) (exec len : UInt64) : Except Fault UInt64 :=
  match views.offset .executable exec with
  | .error fault => .error fault
  | .ok start => if views.size - start < len then .error (.foreignAddress (exec + len)) else .ok start

def rangeAcross (views : ViewPair) (exec len : UInt64) : Except Fault UInt64 :=
  (views.rangeOffset exec len).map (views.writableBase + ·)

def outline (views : ViewPair) : Text.Outline :=
  .record "AddressTranslator"
    [("writable_base", .word (Text.decimal views.writableBase.toNat)),
     ("executable_base", .word (Text.decimal views.executableBase.toNat)),
     ("size", .word (Text.decimal views.size.toNat))]

end ViewPair

end TwinView
