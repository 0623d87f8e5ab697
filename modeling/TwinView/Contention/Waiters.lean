import TwinView.Activation.Gate
import TwinView.Contention.Schedule

/-!
Waiting for a gate while other threads move it. A thread that finds an unsettled gate parks, and looks again
whenever it has been woken: by a move that changed the state, by its time being up, or for no reason. A
thread that wakes because its time is up looks before it gives up, so a gate that settles in between still
ends the wait well. A look and the parking after it are one step.
-/

namespace TwinView.Contention.Waiters

open Activation (Move State deadline)

structure Wait where
  timeout : Option Span
  deadline : Option Span
  deriving DecidableEq

inductive Phase where
  | idle
  | parked (wait : Wait)
  /-- The thread is to look again; `expired` tells whether its time was up when it woke. -/
  | woken (wait : Wait) (expired : Bool)
  | returned (timeout : Option Span) (outcome : Except Fault State)

structure System where
  state : State
  phases : Nat → Phase

inductive Choice where
  | wait (now : Span) (timeout : Option Span)
  | expire
  /-- A parked thread wakes for no reason. -/
  | stir
  | look
  | act (move : Move)

def start : System := ⟨.disabled, fun _ => .idle⟩

def look (wait : Wait) (expired : Bool) (state : State) : Phase :=
  if state.isSettled then .returned wait.timeout (.ok state)
  else
    match wait.timeout with
    | some bound =>
        if expired then .returned wait.timeout (.error (.waitExpired bound)) else .parked wait
    | none => .parked wait

def wakened : Phase → Phase
  | .parked wait => .woken wait false
  | phase => phase

/-- A move of the gate. Every parked thread is woken if the state is another one then. -/
def act (move : Move) (system : System) : System :=
  let state := system.state.after move
  if state = system.state then system else ⟨state, fun thread => wakened (system.phases thread)⟩

def enter (system : System) (thread : Nat) (phase : Phase) : System :=
  { system with phases := moved system.phases thread phase }

def begun (now : Span) (timeout : Option Span) : Wait :=
  ⟨timeout, timeout.bind (deadline now)⟩

def next : Steps Choice System := fun thread choice system =>
  match choice, system.phases thread with
  | .wait now timeout, .idle | .wait now timeout, .returned _ _ =>
      some (enter system thread (look (begun now timeout) false system.state))
  | .expire, .parked wait =>
      if wait.deadline.isSome then some (enter system thread (.woken wait true)) else none
  | .stir, .parked wait => some (enter system thread (.woken wait false))
  | .look, .woken wait expired => some (enter system thread (look wait expired system.state))
  | .act move, .idle | .act move, .returned _ _ => some (act move system)
  | _, _ => none

/-- A wait that ends by itself can end so here, if nobody moves the gate meanwhile. -/
theorem run_wait {now : Span} {timeout : Option Span} {system : System} {thread : Nat}
    {outcome : Except Fault State} (idle : system.phases thread = .idle)
    (ends : Activation.await now timeout system.state = some outcome) :
    ∃ schedule after, run next schedule system = some after ∧ after.state = system.state ∧
      after.phases thread = .returned timeout outcome := by
  unfold Activation.await at ends
  cases settled : system.state.isSettled with
  | true =>
      simp only [settled, ↓reduceIte, Option.some.injEq] at ends
      subst ends
      refine ⟨[(thread, .wait now timeout)], ?_⟩
      simp [run, next, idle, look, begun, enter, settled, moved_self]
  | false =>
      cases timeout with
      | none => simp [settled] at ends
      | some bound =>
          cases reaches : deadline now bound with
          | none => simp [settled, reaches] at ends
          | some moment =>
              simp only [settled, reaches, Bool.false_eq_true, ↓reduceIte, Option.some.injEq] at ends
              subst ends
              refine ⟨[(thread, .wait now (some bound)), (thread, .expire), (thread, .look)], ?_⟩
              simp [run, next, idle, look, begun, enter, settled, reaches, moved_self]

end TwinView.Contention.Waiters
