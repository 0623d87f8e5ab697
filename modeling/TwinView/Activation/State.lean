/-!
The four activation states and their codes. `enabled` and `failed` are settled: a wait ends there.
-/

namespace TwinView.Activation

inductive State where
  /-- Nobody has asked yet. -/
  | disabled
  | pending
  | enabled
  /-- The host refused or answered unexpectedly. -/
  | failed
  deriving DecidableEq

namespace State

def isSettled : State → Bool
  | .enabled | .failed => true
  | .disabled | .pending => false

def code : State → UInt8
  | .disabled => 0
  | .pending => 1
  | .enabled => 2
  | .failed => 3

/-- Every code that no other state has stands for `failed`. -/
def ofCode (code : UInt8) : State :=
  if code = 0 then .disabled
  else if code = 1 then .pending
  else if code = 2 then .enabled
  else .failed

def name : State → String
  | .disabled => "Disabled"
  | .pending => "Pending"
  | .enabled => "Enabled"
  | .failed => "Error"

end State

end TwinView.Activation
