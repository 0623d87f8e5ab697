import TwinView.Contention.Schedule
import TwinView.Memory.Slot

/-!
Filling one slot from several threads. A thread first looks without the lock, which is enough once the slot
is filled. Otherwise it takes the lock and looks again, and makes a region only if the slot is still empty.
Looking, taking the lock, making the region, putting it into the slot and giving the lock back are steps of
their own. A region that finds the slot taken is discarded.
-/

namespace TwinView.Contention.Filling

inductive Phase where
  | idle
  /-- To look without the lock. -/
  | called (size : UInt64)
  /-- To take the lock. -/
  | queued (size : UInt64)
  /-- To look with the lock. -/
  | locked (size : UInt64)
  /-- To make a region. -/
  | making (size : UInt64)
  /-- To put the region into the slot. -/
  | holding (size : UInt64) (region : Region)
  /-- To give the lock back. -/
  | leaving (size : UInt64) (outcome : Except Fault Unit)
  | returned (size : UInt64) (outcome : Except Fault Unit)

structure System where
  slot : Slot
  holder : Option Nat
  phases : Nat → Phase
  /-- Every region that was made, with the size that was asked for, the latest first. -/
  made : List (UInt64 × Region)
  discarded : List Region

inductive Choice where
  | call (size : UInt64)
  | proceed
  /-- The region is made, or not, as the host answers. -/
  | make (answers : HostAnswers)

def start : System := ⟨.empty, none, fun _ => .idle, [], []⟩

def enter (system : System) (thread : Nat) (phase : Phase) : System :=
  { system with phases := moved system.phases thread phase }

def make (thread : Nat) (size : UInt64) (answers : HostAnswers) (system : System) : System :=
  match Region.ofAnswers answers size with
  | .ok region =>
      enter { system with made := (size, region) :: system.made } thread (.holding size region)
  | .error fault => enter system thread (.leaving size (.error fault))

def put (region : Region) (system : System) : System :=
  if system.slot.isFilled then { system with discarded := region :: system.discarded }
  else { system with slot := ⟨some region⟩ }

def proceed (thread : Nat) (system : System) : Option System :=
  match system.phases thread with
  | .called size => some (enter system thread
      (if system.slot.isFilled then .returned size (.ok ()) else .queued size))
  | .queued size =>
      if system.holder = none then
        some (enter { system with holder := some thread } thread (.locked size))
      else none
  | .locked size => some (enter system thread
      (if system.slot.isFilled then .leaving size (.ok ()) else .making size))
  | .holding size region => some (enter (put region system) thread (.leaving size (.ok ())))
  | .leaving size outcome =>
      some (enter { system with holder := none } thread (.returned size outcome))
  | .idle | .making _ | .returned _ _ => none

def next : Steps Choice System := fun thread choice system =>
  match choice, system.phases thread with
  | .call size, .idle | .call size, .returned _ _ => some (enter system thread (.called size))
  | .proceed, _ => proceed thread system
  | .make answers, .making size => some (make thread size answers system)
  | _, _ => none

/-- The outcome of filling a slot without interruption, and the slot after it. -/
def whole (answers : HostAnswers) (size : UInt64) (slot : Slot) : Except Fault Unit × Slot :=
  match (Slot.fill (fun _ => answers) size).run slot with
  | .ok () after => (.ok (), after)
  | .error fault after => (.error fault, after)

/-- Whether the thread is in no call. -/
def Phase.rests : Phase → Bool
  | .idle | .returned _ _ => true
  | _ => false

section Whole

variable {system : System} {thread : Nat}

theorem next_call (rests : (system.phases thread).rests = true) (size : UInt64) :
    next thread (.call size) system = some (enter system thread (.called size)) := by
  cases phase : system.phases thread with
  | idle | returned => simp only [next, phase]
  | _ => simp [Phase.rests, phase] at rests

/-- What is left of a call once it is made. -/
theorem run_called (answers : HostAnswers) {size : UInt64}
    (called : system.phases thread = .called size) (free : system.holder = none) :
    ∃ schedule after, run next schedule system = some after ∧
      after.slot = (whole answers size system.slot).2 ∧
      after.phases thread = .returned size (whole answers size system.slot).1 := by
  cases filled : system.slot.isFilled with
  | true =>
      refine ⟨[(thread, .proceed)], ?_⟩
      simp [run, next, proceed, enter, called, whole, Slot.fill, EStateM.run, filled, moved_self]
  | false =>
      refine ⟨[(thread, .proceed), (thread, .proceed), (thread, .proceed), (thread, .make answers)] ++
          match Region.ofAnswers answers size with
          | .ok _ => [(thread, .proceed), (thread, .proceed)]
          | .error _ => [(thread, .proceed)], ?_⟩
      cases made : Region.ofAnswers answers size <;>
        simp [run, next, proceed, make, put, enter, called, free, whole, Slot.fill, EStateM.run, filled,
          made, moved_self]

/-- A call whose steps follow each other directly is a call as a whole. -/
theorem run_whole (answers : HostAnswers) (size : UInt64)
    (rests : (system.phases thread).rests = true) (free : system.holder = none) :
    ∃ schedule after, run next schedule system = some after ∧
      after.slot = (whole answers size system.slot).2 ∧
      after.phases thread = .returned size (whole answers size system.slot).1 := by
  have called : (enter system thread (.called size)).phases thread = .called size := moved_self _ _ _
  obtain ⟨schedule, after, ran, outcome⟩ := run_called answers called free
  refine ⟨(thread, .call size) :: schedule, after, ?_, outcome⟩
  simp only [run, next_call rests size, Option.bind_some, ran]

end Whole

end TwinView.Contention.Filling
