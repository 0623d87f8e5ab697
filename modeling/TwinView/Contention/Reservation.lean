import TwinView.Contention.Schedule
import TwinView.Memory.Cursor

/-!
Reserving from one cursor without a lock. A thread reads the cursor, computes the range that would follow
it, and swaps the cursor for the end of the range if the cursor is still what was read. A swap may also fail
for no reason. After a failed swap the thread goes on from the cursor that it found instead, and the start of
the earlier range is overwritten. A call gives up as soon as no range follows what was read, even if the
cursor has moved meanwhile.
-/

namespace TwinView.Contention.Reservation

structure Request where
  len : UInt64
  align : UInt64
  deriving DecidableEq

structure Finished where
  request : Request
  outcome : Except Fault UInt64

inductive Phase where
  | idle
  /-- The request is a valid one; the cursor is to be read. -/
  | called (request : Request)
  /-- The cursor was read as `seen`. Of earlier attempts only the last start is left, zero if there was
  none. -/
  | loaded (request : Request) (seen start : UInt64)
  /-- The cursor is to be swapped from `seen` to `finish`. -/
  | proposed (request : Request) (seen start finish : UInt64)
  deriving DecidableEq

structure System where
  cursor : Cursor
  phases : Nat → Phase
  /-- The latest call first. -/
  finished : List Finished

inductive Choice where
  | call (request : Request)
  /-- The next step of the call; a swap fails only if the cursor has moved. -/
  | proceed
  | fail
  deriving DecidableEq

def start (cursor : Cursor) : System := ⟨cursor, fun _ => .idle, []⟩

def enter (system : System) (thread : Nat) (phase : Phase) : System :=
  { system with phases := moved system.phases thread phase }

def finish (system : System) (thread : Nat) (request : Request) (outcome : Except Fault UInt64) :
    System :=
  { system with
    phases := moved system.phases thread .idle
    finished := ⟨request, outcome⟩ :: system.finished }

def proceed (region : Region) (thread : Nat) (system : System) : Option System :=
  match system.phases thread with
  | .idle => none
  | .called request => some (enter system thread (.loaded request system.cursor.used 0))
  | .loaded request seen _ =>
      match Cursor.next region.size request.len request.align seen with
      | some grant => some (enter system thread (.proposed request seen grant.start grant.finish))
      | none => some (finish system thread request
          (.error (.regionFull request.len (Cursor.left region.size ⟨seen⟩))))
  | .proposed request seen start finish' =>
      if system.cursor.used = seen then
        some (finish { system with cursor := ⟨finish'⟩ } thread request
          (.ok (region.base .executable + start)))
      else some (enter system thread (.loaded request system.cursor.used start))

def next (region : Region) : Steps Choice System := fun thread choice system =>
  match choice, system.phases thread with
  | .call request, .idle =>
      match Cursor.checkRequest request.len request.align with
      | .error fault => some (finish system thread request (.error fault))
      | .ok () => some (enter system thread (.called request))
  | .call _, _ => none
  | .proceed, _ => proceed region thread system
  | .fail, .proposed request _ start _ =>
      some (enter system thread (.loaded request system.cursor.used start))
  | .fail, _ => none

/-- The outcome of a call that nobody interrupts, and the cursor after it. -/
def whole (region : Region) (request : Request) (cursor : Cursor) : Except Fault UInt64 × Cursor :=
  match (Cursor.reserve ⟨some region⟩ request.len request.align).run cursor with
  | .ok address after => (.ok address, after)
  | .error fault after => (.error fault, after)

/-- Calls made one after the other, each as a whole. -/
def inTurn (region : Region) : List Request → Cursor → List Finished × Cursor
  | [], cursor => ([], cursor)
  | request :: rest, cursor =>
      let (outcome, after) := whole region request cursor
      let (finished, last) := inTurn region rest after
      (⟨request, outcome⟩ :: finished, last)

/-- A call whose steps follow each other directly is a call as a whole. -/
theorem run_whole (region : Region) (request : Request) (system : System) (thread : Nat)
    (idle : system.phases thread = .idle) :
    ∃ schedule, run (next region) schedule system =
      some (finish { system with cursor := (whole region request system.cursor).2 } thread request
        (whole region request system.cursor).1) := by
  cases checked : Cursor.checkRequest request.len request.align with
  | error fault =>
      refine ⟨[(thread, .call request)], ?_⟩
      simp [run, next, idle, checked, whole, Cursor.reserve, EStateM.run, Except.bind]
  | ok _ =>
      cases follows : Cursor.next region.size request.len request.align system.cursor.used with
      | none =>
          refine ⟨[(thread, .call request), (thread, .proceed), (thread, .proceed)], ?_⟩
          simp [run, next, proceed, enter, finish, idle, checked, follows, moved_self, moved_moved,
            whole, Cursor.reserve, Slot.owned, EStateM.run, Except.bind]
      | some grant =>
          refine ⟨[(thread, .call request), (thread, .proceed), (thread, .proceed),
            (thread, .proceed)], ?_⟩
          simp [run, next, proceed, enter, finish, idle, checked, follows, moved_self, moved_moved,
            whole, Cursor.reserve, Slot.owned, EStateM.run, Except.bind]

end TwinView.Contention.Reservation
