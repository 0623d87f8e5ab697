import TwinView.Activation.Host
import TwinView.Activation.Wait

/-!
The gate that native code has to pass. A request takes it to pending, or to failed if the host refuses; a
check asks the host and follows its answers; a notice enables and a failure fails it from anywhere. Checks
leave enabled and failed alone. A permission counts only while a request is pending, so a host that grants
from the start enables nothing by itself.
-/

namespace TwinView.Activation

inductive Move where
  | request (accepted : Bool)
  | check (permission : Permission) (standing : Bool)
  | notice
  | failure
  deriving DecidableEq

namespace State

/-- A request that the host knows of counts as issued here. -/
def noticing (standing : Bool) (state : State) : State :=
  if state = .disabled ∧ standing then .pending else state

def afterAnswer (permission : Permission) (state : State) : State :=
  match state, permission with
  | .enabled, _ => .enabled
  | .failed, _ => .failed
  | _, .unavailable _ => .failed
  | .pending, .granted => .enabled
  | unsettled, _ => unsettled

def after (state : State) : Move → State
  | .request accepted =>
      if state = .enabled then .enabled else if accepted then .pending else .failed
  | .check permission standing => (state.noticing standing).afterAnswer permission
  | .notice => .enabled
  | .failure => .failed

end State

structure Gate (H : Type) where
  host : H
  state : State

namespace Gate

variable {H : Type}

def closed (host : H) : Gate H := ⟨host, .disabled⟩

def isEnabled (gate : Gate H) : Bool := gate.state = .enabled

def notify (gate : Gate H) : Gate H := { gate with state := gate.state.after .notice }

def fail (gate : Gate H) : Gate H := { gate with state := gate.state.after .failure }

def await (gate : Gate H) (now : Span) (timeout : Option Span) : Option (Except Fault State) :=
  Activation.await now timeout gate.state

def outline (gate : Gate H) : Text.Outline :=
  .record "ActivationStateMachine" [("state", .word gate.state.name)]

/-- What can be done with a gate. Between two steps the host may also change by itself. -/
inductive Step (H : Type) where
  | request
  | check
  | notify
  | fail
  | await (now : Span) (timeout : Option Span)
  | outside (change : H → H)

inductive Answer where
  | done
  | accepted (answer : Bool)
  | state (state : State)
  /-- Nothing, if the wait does not end by itself. -/
  | waited (outcome : Option (Except Fault State))

variable [Host H]

/-- Submits a request to the host, unless the gate is enabled already. Whether it is now enabled or a request
stands. -/
def request (gate : Gate H) : Bool × Gate H :=
  if gate.state = .enabled then (true, gate)
  else
    let (accepted, host) := Host.submit gate.host
    (accepted, ⟨host, gate.state.after (.request accepted)⟩)

def check (gate : Gate H) : State × Gate H :=
  let (permission, consulted) := Host.consult gate.host
  let (standing, host) := Host.standing consulted
  let state := gate.state.after (.check permission standing)
  (state, ⟨host, state⟩)

def perform (gate : Gate H) : Step H → Answer × Gate H
  | .request => let (answer, next) := gate.request; (.accepted answer, next)
  | .check => let (state, next) := gate.check; (.state state, next)
  | .notify => (.done, gate.notify)
  | .fail => (.done, gate.fail)
  | .await now timeout => (.waited (gate.await now timeout), gate)
  | .outside change => (.done, { gate with host := change gate.host })

end Gate

end TwinView.Activation
