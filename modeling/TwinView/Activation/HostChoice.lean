import TwinView.Activation.Host
import TwinView.Text.Outline

/-!
One of the hosts of this library, where the choice is made only when a program runs.
-/

namespace TwinView.Activation

inductive HostChoice where
  | steered (host : SteeredHost)
  | silent (host : SilentHost)
  | native (host : NativeHost)

namespace HostChoice

/-- An answer of one kind of host, with the host put back under the choice. -/
def wrap {H α : Type} (choice : H → HostChoice) (answer : α × H) : α × HostChoice :=
  (answer.1, choice answer.2)

instance : Host HostChoice where
  consult
    | .steered host => wrap .steered (Host.consult host)
    | .silent host => wrap .silent (Host.consult host)
    | .native host => wrap .native (Host.consult host)
  submit
    | .steered host => wrap .steered (Host.submit host)
    | .silent host => wrap .silent (Host.submit host)
    | .native host => wrap .native (Host.submit host)
  standing
    | .steered host => wrap .steered (Host.standing host)
    | .silent host => wrap .silent (Host.standing host)
    | .native host => wrap .native (Host.standing host)

/-- Sets the answer of a host that takes answers; a native host does not. -/
def answering (permission : Permission) : HostChoice → HostChoice
  | .steered host => .steered (host.answering permission)
  | .silent host => .silent (host.answering permission)
  | .native host => .native host

def refusing : HostChoice → HostChoice
  | .steered host => .steered host.refusing
  | .silent host => .silent host.refusing
  | .native host => .native host

def requests : HostChoice → Option UInt32
  | .steered host => some host.requests
  | .silent _ | .native _ => none

def policy : HostChoice → Option Policy
  | .native host => some host.policy
  | .steered _ | .silent _ => none

def outline : HostChoice → Option Text.Outline
  | .native host => some (.record "ProcessHost"
      [("policy", .word host.policy.name),
       ("requested", .word (if host.requested then "true" else "false"))])
  | .steered _ | .silent _ => none

end HostChoice

end TwinView.Activation
