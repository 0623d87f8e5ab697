import TwinView.Activation.Gate
import TwinView.Contention.Schedule

/-!
Checking a gate from several threads. A check asks the host for its permission, then for a standing request,
and only then takes the gate, so other threads may act between these three steps. Requests, notices, failures
and changes of the host's answer are one step each.
-/

namespace TwinView.Contention.Polling

open Activation (Gate Host Permission State SteeredHost)

inductive Phase where
  | idle
  /-- The host has answered; `preceded` tells whether a request had reached it by then. -/
  | consulted (permission : Permission) (preceded : Bool)
  /-- The host has also told whether a request stands; the gate is to be moved. -/
  | informed (permission : Permission) (preceded standing : Bool)
  deriving DecidableEq

structure System where
  gate : Gate SteeredHost
  phases : Nat → Phase
  reached : Bool

inductive Choice where
  | consult
  | inform
  | move
  | request
  | notify
  | fail
  | answer (permission : Permission)
  deriving DecidableEq

def start (host : SteeredHost) : System := ⟨.closed host, fun _ => .idle, false⟩

def enter (system : System) (thread : Nat) (phase : Phase) : System :=
  { system with phases := moved system.phases thread phase }

def consult (thread : Nat) (system : System) : System :=
  let (permission, host) := Host.consult system.gate.host
  enter { system with gate := { system.gate with host := host } } thread
    (.consulted permission system.reached)

def inform (thread : Nat) (permission : Permission) (preceded : Bool) (system : System) : System :=
  let (standing, host) := Host.standing system.gate.host
  enter { system with gate := { system.gate with host := host } } thread
    (.informed permission preceded standing)

def move (thread : Nat) (permission : Permission) (standing : Bool) (system : System) : System :=
  let state := system.gate.state.after (.check permission standing)
  enter { system with gate := { system.gate with state := state } } thread .idle

def request (system : System) : System :=
  { system with
    gate := system.gate.request.2
    reached := system.reached || !system.gate.isEnabled }

def next : Steps Choice System := fun thread choice system =>
  match choice, system.phases thread with
  | .consult, .idle => some (consult thread system)
  | .inform, .consulted permission preceded => some (inform thread permission preceded system)
  | .move, .informed permission _ standing => some (move thread permission standing system)
  | .request, .idle => some (request system)
  | .notify, .idle => some { system with gate := system.gate.notify }
  | .fail, .idle => some { system with gate := system.gate.fail }
  | .answer permission, .idle =>
      some { system with
        gate := { system.gate with host := system.gate.host.answering permission } }
  | _, _ => none

/-- A check whose steps follow each other directly is a check as a whole. -/
theorem run_check (system : System) (thread : Nat) (idle : system.phases thread = .idle) :
    (run next [(thread, .consult), (thread, .inform), (thread, .move)] system).map System.gate =
      some system.gate.check.2 := by
  simp [run, next, idle, consult, inform, move, enter, moved_self, Gate.check]

end TwinView.Contention.Polling
