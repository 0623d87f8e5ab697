import TwinView.Activation.Gate
import TwinView.Memory.Cursor
import TwinView.Settings.Basic

/-!
A session is what a code generator works with: a slot for the region, a cursor over it, and the gate. Code
is emitted by reserving a range, copying the code there through the writable view, and making the range
coherent, in this order. Renewing the region discards all code at once and rewinds the cursor; the gate does
not take part in that.
-/

namespace TwinView

open Activation (Host Gate State)

structure Session (H : Type) where
  settings : Settings
  slot : Slot
  cursor : Cursor
  gate : Gate H

namespace Session

variable {H : Type}

/-- Operations that may fail. A failure leaves the session as far as the operation had come. -/
abbrev Op (H : Type) := EStateM Fault (Session H)

def start (settings : Settings) (host : H) : Session H :=
  ⟨settings, .empty, .zero, .closed host⟩

def isAvailable (session : Session H) : Bool := session.slot.isFilled

def isEnabled (session : Session H) : Bool := session.isAvailable && session.gate.isEnabled

def used (session : Session H) : UInt64 := session.cursor.used

def remaining (session : Session H) : UInt64 := session.cursor.remaining session.slot

def onSlot {α : Type} (operation : EStateM Fault Slot α) : Op H α :=
  fun ⟨settings, slot, cursor, gate⟩ =>
    match operation slot with
    | .ok answer next => .ok answer ⟨settings, next, cursor, gate⟩
    | .error fault next => .error fault ⟨settings, next, cursor, gate⟩

def onCursor {α : Type} (operation : Slot → EStateM Fault Cursor α) : Op H α :=
  fun ⟨settings, slot, cursor, gate⟩ =>
    match operation slot cursor with
    | .ok answer next => .ok answer ⟨settings, slot, next, gate⟩
    | .error fault next => .error fault ⟨settings, slot, next, gate⟩

def onGate {α : Type} (operation : Gate H → α × Gate H) : Op H α :=
  fun ⟨settings, slot, cursor, gate⟩ =>
    let (answer, next) := operation gate
    .ok answer ⟨settings, slot, cursor, next⟩

def reserve (len align : UInt64) : Op H UInt64 :=
  onCursor (Cursor.reserve · len align)

def write (exec : UInt64) (code : Code) : Op H Unit :=
  onSlot (Slot.write exec code)

def synchronize (exec len : UInt64) : Op H Unit :=
  onSlot (Slot.synchronize exec len)

def counterpart (exec : UInt64) : Op H UInt64 := do
  match (← get).slot.counterpart .executable exec with
  | .ok address => pure address
  | .error fault => throw fault

def emit (code : Code) (align : UInt64) : Op H UInt64 := do
  let exec ← reserve code.size align
  write exec code
  synchronize exec code.size
  pure exec

/-- Emits the codes one after the other and keeps the addresses of those that found room. -/
def emitAll : List Code → Session H → List (UInt64 × Code) × Session H
  | [], session => ([], session)
  | code :: rest, session =>
      match (emit code 1).run session with
      | .ok exec moved =>
          let (placed, last) := emitAll rest moved
          ((exec, code) :: placed, last)
      | .error _ same => emitAll rest same

def clearSlot : Op H Bool := fun session =>
  let (existed, slot) := Slot.clear.run session.slot
  .ok existed { session with slot := slot }

def resetCursor : Op H Unit :=
  modify fun session => { session with cursor := .zero }

/-- Discards the region with all code and makes a new one of the same size, or of the configured size if
there was none. -/
def renew (placement : Placement) : Op H Unit := do
  let session ← get
  let size := session.slot.size?.getD session.settings.regionSize
  let _ ← clearSlot
  resetCursor
  onSlot (Slot.fill placement size)

/-- Gives up the region. The cursor is rewound only if there was one. -/
def release : Op H Unit := do
  if ← clearSlot then resetCursor

def awaitConfigured (session : Session H) (now : Span) : Option (Except Fault State) :=
  session.gate.await now session.settings.timeout

def outline (session : Session H) : Text.Outline :=
  .record "JitRuntime"
    [("config", session.settings.outline), ("manager", session.slot.outline),
     ("used", .word (Text.decimal session.used.toNat)),
     ("activation", .word session.gate.state.name)]

inductive Step (H : Type) where
  | establish (placement : Placement)
  | establishSized (placement : Placement) (size : UInt64)
  | reserve (len align : UInt64)
  | emit (code : Code) (align : UInt64)
  | write (exec : UInt64) (code : Code)
  | counterpart (exec : UInt64)
  | synchronize (exec len : UInt64)
  | renew (placement : Placement)
  | release
  | gate (step : Gate.Step H)

inductive Answer where
  | done
  | address (address : UInt64)
  | gate (answer : Gate.Answer)

variable [Host H]

/-- What follows once a region is there: with the immediate profile the gate opens, with the deferred one
the host is asked. -/
def activate : Op H Unit := do
  match (← get).settings.profile with
  | .immediate => onGate fun gate => ((), gate.notify)
  | .deferred => onGate fun gate => ((), gate.check.2)

/-- Makes a region of the size, unless there is one. -/
def establishSized (placement : Placement) (size : UInt64) : Op H Unit := do
  onSlot (Slot.fill placement size)
  activate

def establish (placement : Placement) : Op H Unit := do
  establishSized placement (← get).settings.regionSize

def perform : Step H → Op H Answer
  | .establish placement => do establish placement; pure .done
  | .establishSized placement size => do establishSized placement size; pure .done
  | .reserve len align => do pure (.address (← reserve len align))
  | .emit code align => do pure (.address (← emit code align))
  | .write exec code => do write exec code; pure .done
  | .counterpart exec => do pure (.address (← counterpart exec))
  | .synchronize exec len => do synchronize exec len; pure .done
  | .renew placement => do renew placement; pure .done
  | .release => do release; pure .done
  | .gate step => do pure (.gate (← onGate (·.perform step)))

def after (session : Session H) (step : Step H) : Session H :=
  match (perform step).run session with
  | .ok _ next | .error _ next => next

end Session

end TwinView
