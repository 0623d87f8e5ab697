import TwinView.Activation.Gate

/-!
What opens a gate, and what keeps it open. A notice opens it, and so does a check that finds the permission
while a request is pending. Nothing but a failure by hand closes an open gate: requests and checks leave it
as it is, whatever the host answers.
-/

namespace TwinView.Activation

theorem State.after_enabled {move : Move} (unfailed : move ≠ .failure) :
    State.enabled.after move = .enabled := by
  cases move with
  | request accepted => rfl
  | check permission standing => rfl
  | notice => rfl
  | failure => exact absurd rfl unfailed

namespace Gate

variable {H : Type} {gate : Gate H}

theorem isEnabled_iff : gate.isEnabled = true ↔ gate.state = .enabled := decide_eq_true_iff

def Step.isFailure : Step H → Bool
  | .fail => true
  | _ => false

/-- Whether the step with this answer has opened the gate, or has found it open by a check. -/
def Step.opens : Step H → Answer → Bool
  | .notify, _ => true
  | .check, .state .enabled => true
  | _, _ => false

variable [Host H]

theorem request_isEnabled (gate : Gate H) : gate.request.2.isEnabled = gate.isEnabled := by
  unfold request
  by_cases already : gate.state = .enabled
  · rw [if_pos already]
  · have shut : gate.isEnabled = false := decide_eq_false already
    rw [if_neg already, shut]
    apply decide_eq_false
    intro opened
    simp only [State.after, if_neg already] at opened
    split at opened <;> cases opened

theorem check_exact (gate : Gate H) :
    gate.check.1 = gate.state.after (.check (Host.consult gate.host).1
      (Host.standing (Host.consult gate.host).2).1) := rfl

theorem check_isEnabled (gate : Gate H) (opened : gate.isEnabled = true) :
    gate.check.1 = .enabled := by
  rw [check_exact, isEnabled_iff.mp opened]
  apply State.after_enabled
  intro failed
  cases failed

/-- Short of a failure by hand, a gate is open exactly if it was or if the step has opened it. -/
theorem perform_isEnabled (gate : Gate H) {step : Step H} (unfailed : step.isFailure = false) :
    (gate.perform step).2.isEnabled =
      (gate.isEnabled || step.opens (gate.perform step).1) := by
  cases step with
  | request =>
      exact (gate.request_isEnabled).trans (Bool.or_false _).symm
  | check =>
      have answered : (gate.perform .check).2.state = gate.check.1 := rfl
      have told : (gate.perform .check).1 = .state gate.check.1 := rfl
      cases opened : gate.isEnabled with
      | false =>
          rw [isEnabled, answered, told]
          cases gate.check.1 <;> rfl
      | true =>
          rw [isEnabled, answered, gate.check_isEnabled opened]
          rfl
  | notify => exact (Bool.or_true _).symm
  | fail => cases unfailed
  | await now timeout => exact (Bool.or_false _).symm
  | outside change => exact (Bool.or_false _).symm

end Gate

end TwinView.Activation
