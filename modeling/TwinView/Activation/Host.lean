import TwinView.Activation.Tracer

/-!
Hosts decide whether native code may run. A host answers three questions, and answering may change it: is
the permission there, can a request for it be submitted, and does a submitted request stand.
-/

namespace TwinView.Activation

inductive Permission where
  | granted
  | notGranted
  | unavailable (reason : String)
  deriving DecidableEq

class Host (H : Type) where
  consult : H → Permission × H
  submit : H → Bool × H
  /-- A host that keeps no record of requests reports none. -/
  standing : H → Bool × H := fun host => (false, host)

/-- A host whose answers are set from outside. It counts the requests that it receives, in a word that
starts again at zero. -/
structure SteeredHost where
  permission : Permission
  accepts : Bool
  requests : UInt32
  deriving DecidableEq

namespace SteeredHost

def fresh : SteeredHost := ⟨.notGranted, true, 0⟩

def answering (permission : Permission) (host : SteeredHost) : SteeredHost :=
  { host with permission := permission }

def refusing (host : SteeredHost) : SteeredHost := { host with accepts := false }

instance : Host SteeredHost where
  consult host := (host.permission, host)
  submit host := (host.accepts, { host with requests := host.requests + 1 })
  standing host := (0 < host.requests && host.accepts, host)

end SteeredHost

/-- A host whose answers are set from outside and which never reports a request. -/
structure SilentHost where
  permission : Permission
  accepts : Bool
  deriving DecidableEq

namespace SilentHost

def fresh : SilentHost := ⟨.notGranted, true⟩

def answering (permission : Permission) (host : SilentHost) : SilentHost :=
  { host with permission := permission }

def refusing (host : SilentHost) : SilentHost := { host with accepts := false }

instance : Host SilentHost where
  consult host := (host.permission, host)
  submit host := (host.accepts, host)

end SilentHost

inductive Policy where
  | always
  /-- Native code is permitted while a debugger traces the process. -/
  | whileTraced
  deriving DecidableEq

def Policy.name : Policy → String
  | .always => "Always"
  | .whileTraced => "DebuggerAttached"

/-- The host that a process finds itself on. `status` is what reading the process status gives: its text, or
the reason why it cannot be read. -/
structure NativeHost where
  policy : Policy
  requested : Bool
  status : Except String String

namespace NativeHost

def fresh (policy : Policy) (status : Except String String) : NativeHost :=
  ⟨policy, false, status⟩

def permissionOfStatus : Except String String → Permission
  | .error reason => .unavailable ("reading /proc/self/status: " ++ reason)
  | .ok text =>
      match tracingProcess text.toList with
      | none => .unavailable "TracerPid missing from /proc/self/status"
      | some process => if process = 0 then .notGranted else .granted

def permission (host : NativeHost) : Permission :=
  match host.policy with
  | .always => .granted
  | .whileTraced => permissionOfStatus host.status

instance : Host NativeHost where
  consult host := (host.permission, host)
  submit host := (true, { host with requested := true })
  standing host := (host.requested, host)

end NativeHost

end TwinView.Activation
