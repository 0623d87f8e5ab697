import TwinView.Proofs.Session.Effect

/-!
What is left of a session when a step fails: everything. Emitting takes three parts that may each refuse, and
nothing is taken back when a later one does; it is the first one alone that ever refuses. Renewing is the
exception, since it gives up the old region before it makes the new one.
-/

namespace TwinView.Session

open Activation (Gate Host)

variable {H : Type}

/-- The fault that a result reports. A wait that has come back with one is an answer of the gate. -/
def faultOf : EStateM.Result Fault (Session H) Answer → Option Fault
  | .error fault _ => some fault
  | .ok (.gate (.waited (some (.error fault)))) _ => some fault
  | .ok _ _ => none

variable [Host H] {session : Session H} {step : Step H} {code : Code} {align : UInt64}

/-- The fault that a step fails with, if it fails. -/
def failure (session : Session H) (step : Step H) : Option Fault :=
  faultOf ((perform step).run session)

/-- Of the steps of a gate, only waiting can fail, and waiting changes nothing. -/
theorem gate_failure_kept (gate : Gate H) (step : Gate.Step H) {fault : Fault}
    (expired : (gate.perform step).1 = .waited (some (.error fault))) :
    (gate.perform step).2 = gate := by
  cases step with
  | await now timeout => rfl
  | _ => cases expired

theorem failure_after {fault : Fault} (kept : step.isRenewal = false)
    (failed : session.failure step = some fault) : session.after step = session := by
  have effect := perform_effect session step
  unfold failure at failed
  unfold after
  generalize (perform step).run session = result at effect failed ⊢
  cases effect with
  | failed => rfl
  | gate inner =>
      have expired : (session.gate.perform inner).1 = .waited (some (.error fault)) := by
        simp only [faultOf] at failed
        split at failed <;> simp_all
      rw [gate_failure_kept session.gate inner expired]
  | lost | renewed => cases kept
  | _ => cases failed

theorem emit_failure_iff {fault : Fault} :
    session.failure (.emit code align) = some fault ↔
      session.failure (.reserve code.size align) = some fault := by
  unfold failure
  rcases session.emit_cases code align with
    ⟨refusal, _, reserve, emit⟩ | ⟨region, exec, cursor, _, reserve, emit⟩
  · simp only [perform, EStateM.run_bind, reserve, emit, faultOf]
  · simp only [perform, EStateM.run_bind, reserve, emit, EStateM.run_pure, faultOf]

theorem emit_failure_elsewhere (address : UInt64) :
    session.failure (.emit code align) ≠ some (.foreignAddress address) := by
  intro failed
  rcases session.emit_cases code align with ⟨fault, refuses, _, emit⟩ | ⟨_, _, _, _, _, emit⟩
  · -- The fault comes from the reservation, which is given no address that could be wrong.
    have blameless := refuses.no_caller_bug
    simp only [failure, perform, EStateM.run_bind, emit, faultOf] at failed
    cases failed
    cases blameless
  · simp only [failure, perform, EStateM.run_bind, emit, EStateM.run_pure, faultOf] at failed
    cases failed

theorem emit_stored (granted : session.failure (.emit code align) = none) :
    let next := session.after (.emit code align)
    ∃ exec region, (perform (.emit code align)).run session = .ok (.address exec) next ∧
      (perform (.reserve code.size align)).run session =
        .ok (.address exec) { session with cursor := next.cursor } ∧
      next.slot.region = some region ∧
      region.read .executable exec code.bytes.length = some code.bytes := by
  rcases session.emit_cases code align with
    ⟨fault, _, _, emit⟩ | ⟨region, exec, cursor, grants, reserve, emit⟩
  · simp only [failure, perform, EStateM.run_bind, emit, faultOf] at granted
    cases granted
  · have emitted : (perform (.emit code align)).run session =
        .ok (.address exec) (storing { session with cursor := cursor } region exec code) := by
      simp only [perform, EStateM.run_bind, emit, EStateM.run_pure]
    have reserved : (perform (.reserve code.size align)).run session =
        .ok (.address exec) { session with cursor := cursor } := by
      simp only [perform, EStateM.run_bind, reserve, EStateM.run_pure]
    simp only [after, emitted]
    exact ⟨exec, _, rfl, reserved, rfl, Region.read_stored grants.covers⟩

theorem renew_failure_after {placement : Placement} {fault : Fault}
    (failed : session.failure (.renew placement) = some fault) :
    session.after (.renew placement) = { session with slot := .empty, cursor := .zero } := by
  rcases session.renew_cases placement with ⟨refusal, lost⟩ | ⟨region, _, renewed⟩
  · simp only [after, perform, EStateM.run_bind, lost]
  · simp only [failure, perform, EStateM.run_bind, renewed, EStateM.run_pure, faultOf] at failed
    cases failed

/-- A step that fails leaves the session as it was, to the last byte. Emitting fails with what reserving
fails with and nothing else, so nothing is handed out without the code in it. A failed renewal takes the
region and rewinds the cursor. -/
theorem failure_leaves_session (session : Session H) :
    (∀ step fault, step.isRenewal = false → session.failure step = some fault →
        session.after step = session) ∧
      (∀ code align fault, session.failure (.emit code align) = some fault ↔
        session.failure (.reserve code.size align) = some fault) ∧
      (∀ code align address,
        session.failure (.emit code align) ≠ some (.foreignAddress address)) ∧
      (∀ code align, session.failure (.emit code align) = none →
        let next := session.after (.emit code align)
        ∃ exec region, (perform (.emit code align)).run session = .ok (.address exec) next ∧
          (perform (.reserve code.size align)).run session =
            .ok (.address exec) { session with cursor := next.cursor } ∧
          next.slot.region = some region ∧
          region.read .executable exec code.bytes.length = some code.bytes) ∧
      ∀ placement fault, session.failure (.renew placement) = some fault →
        session.after (.renew placement) = { session with slot := .empty, cursor := .zero } := by
  refine ⟨?_, ?_, ?_, ?_, ?_⟩
  · intro step fault kept failed
    exact failure_after kept failed
  · intro code align fault
    exact emit_failure_iff
  · intro code align address
    exact emit_failure_elsewhere address
  · intro code align granted
    exact emit_stored granted
  · intro placement fault failed
    exact renew_failure_after failed

end TwinView.Session
