import TwinView.Proofs.Activation.Grounds
import TwinView.Proofs.Session.Effect

/-!
Why native code may run in a session: its gate stands open on grounds, and a region is there. Establishing a
region moves the gate like a check where the profile is deferred and like a notice where it is immediate, but
only if it succeeds. No other operation on the memory moves the gate.
-/

namespace TwinView.Session

open Activation (Gate Grounded Host Move SteeredHost)

variable {H : Type} [Host H]

def establishingMove? (session : Session H) (step : Step H) : Option Move :=
  match (perform step).run session, session.settings.profile with
  | .ok _ _, .immediate => some .notice
  | .ok _ _, .deferred => session.gate.move? .check
  | .error _ _, _ => none

/-- The move that a step makes with the gate of a session. -/
def move? (session : Session H) (step : Step H) : Option Move :=
  match step with
  | .gate inner => session.gate.move? inner
  | .establish _ | .establishSized _ _ => session.establishingMove? step
  | _ => none

def run (session : Session H) (steps : List (Step H)) : Session H := steps.foldl after session

/-- The moves of the gate in a run, the first one first. -/
def moves (session : Session H) : List (Step H) → List Move
  | [] => []
  | step :: rest => (session.move? step).toList ++ (session.after step).moves rest

theorem move?_established (session : Session H) {step : Step H} {size : UInt64}
    (sized : step.establishedSize session.settings = some size) :
    session.move? step = session.establishingMove? step := by
  cases step with
  | establish | establishSized => rfl
  | _ => cases sized

/-- A step that failed has not moved the gate, whatever it was to do. -/
theorem move?_failed (session : Session H) {step : Step H} {fault : Fault} {next : Session H}
    (failed : (perform step).run session = .error fault next) : session.move? step = none := by
  cases step with
  | gate inner =>
      rcases session with ⟨settings, slot, cursor, gate⟩
      cases failed
  | establish | establishSized => simp only [move?, establishingMove?, failed]
  | _ => rfl

theorem activated_state (session : Session H) {step : Step H} {answer : Answer} {next : Session H}
    (done : (perform step).run session = .ok answer next) :
    session.activated.state =
      (session.establishingMove? step).toList.foldl Activation.State.after session.gate.state := by
  rw [establishingMove?, done, activated]
  cases session.settings.profile with
  | immediate => rfl
  | deferred => exact session.gate.after_state .check

theorem after_state (session : Session H) (step : Step H) :
    (session.after step).gate.state =
      (session.move? step).toList.foldl Activation.State.after session.gate.state := by
  have effect := perform_effect session step
  unfold after
  generalize result : (perform step).run session = outcome at effect ⊢
  cases effect with
  | failed fault kept =>
      rw [session.move?_failed result]
      rfl
  | kept sized filled =>
      rw [session.move?_established sized]
      exact session.activated_state result
  | established sized missing made =>
      rw [session.move?_established sized]
      exact session.activated_state result
  | gate inner => exact session.gate.after_state inner
  | reserved | emitted | written | located | coherent | lost | renewed | released => rfl

theorem run_state (session : Session H) (steps : List (Step H)) :
    (session.run steps).gate.state =
      (session.moves steps).foldl Activation.State.after session.gate.state := by
  induction steps generalizing session with
  | nil => rfl
  | cons step rest ih =>
      rw [moves, List.foldl_append, ← session.after_state step]
      exact ih (session.after step)

theorem grounded_of_isEnabled (settings : Settings) (host : H) (steps : List (Step H))
    (enabled : ((start settings host).run steps).isEnabled = true) :
    ((start settings host).run steps).isAvailable = true ∧
      Grounded ((start settings host).moves steps) := by
  rw [isEnabled, Bool.and_eq_true, Gate.isEnabled, decide_eq_true_iff, run_state] at enabled
  exact ⟨enabled.1, Activation.grounded_of_enabled enabled.2⟩

/-- Neither a gate nor a session is ever enabled without grounds, whatever the host answers, and a session is
not without a region either. A permission that is found after an accepted request always counts. -/
theorem enabled_only_on_grounds :
    (∀ (host : H) (steps : List (Gate.Step H)),
        ((Gate.closed host).run steps).isEnabled = true → Grounded ((Gate.closed host).moves steps)) ∧
      (∀ (gate : Gate H) (steps : List (Gate.Step H)), gate.request.1 = true →
        (∀ move ∈ gate.request.2.moves steps, move.spoils = false) →
          let waiting := gate.request.2.run steps
          (Host.consult waiting.host).1 = .granted → waiting.check.1 = .enabled) ∧
      ∀ (settings : Settings) (host : H) (steps : List (Step H)),
        let session := (start settings host).run steps
        session.isEnabled = true →
          session.isAvailable = true ∧ Grounded ((start settings host).moves steps) := by
  refine ⟨?_, ?_, ?_⟩
  · intro host steps enabled
    rw [Gate.isEnabled, decide_eq_true_iff, Gate.run_state] at enabled
    exact Activation.grounded_of_enabled enabled
  · intro gate steps accepted unspoiled waiting granted
    exact Gate.check_opens steps accepted unspoiled granted
  · intro settings host steps session enabled
    exact grounded_of_isEnabled settings host steps enabled

/-- A host that granted before anybody asked, a first request, and a check afterwards. -/
theorem asked_after_grant_grounded :
    let steps : List (Step SteeredHost) :=
      [.gate (.outside (·.answering .granted)), .establish (.addressSpace 3 0x10000 0x80000),
        .gate .request, .gate .check]
    let session := start Settings.default SteeredHost.fresh
    (session.run steps).isEnabled = true ∧ (session.run steps).isAvailable = true ∧
      Grounded (session.moves steps) ∧
      session.moves steps = [.check .granted false, .request true, .check .granted true] := by
  intro steps session
  have enabled : (session.run steps).isEnabled = true := rfl
  have grounds := enabled_only_on_grounds.2.2 Settings.default SteeredHost.fresh steps enabled
  exact ⟨enabled, grounds.1, grounds.2, rfl⟩

end TwinView.Session
