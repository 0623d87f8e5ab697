import TwinView.Activation.State
import TwinView.Fault

/-!
Waiting for a gate to settle. A wait that finds a settled state ends at once. Otherwise it ends with a fault
when its time is up, if it has a bound and the host's clock reaches that far; without such a moment it goes
on until somebody settles the gate.
-/

namespace TwinView.Activation

/-- The host's clock counts seconds from its start, up to this many. -/
def clockSeconds : UInt64 := 0x8000000000000000

/-- The moment at which a wait that starts now is over, if the clock reaches it. -/
def deadline (now timeout : Span) : Option Span :=
  (now.add? timeout).filter (·.secs < clockSeconds)

/-- How a wait ends if nobody changes the state meanwhile; nothing if it does not end. -/
def await (now : Span) (timeout : Option Span) (state : State) : Option (Except Fault State) :=
  if state.isSettled then some (.ok state)
  else
    match timeout with
    | none => none
    | some bound =>
        match deadline now bound with
        | none => none
        | some _ => some (.error (.waitExpired bound))

/-- The number of a wait that ran out of time, apart from every state code. -/
def expiredCode : UInt8 := 255

def outcomeCode : Except Fault State → UInt8
  | .ok state => state.code
  | .error (.waitExpired _) => expiredCode
  | .error _ => State.failed.code

end TwinView.Activation
