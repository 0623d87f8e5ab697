import TwinView.Proofs.Activation.Grounds
import TwinView.Proofs.Activation.Opening

/-!
How long a state lasts. An open gate stays open until it is failed by hand, and a failed one stays failed until
a request is accepted or a notice arrives. Nobody gets back to the start: a gate that has been asked for once
is never disabled again. The run lemma says this once for any property of states that each stage of the run
keeps. What reaches the host is told by a host that counts. It answers like the one inside it, and nothing
reads its count.
-/

namespace TwinView.Activation

theorem State.after_ne_disabled {state : State} (left : state ≠ .disabled) (move : Move) :
    state.after move ≠ .disabled := by
  cases move with
  | request accepted => cases state <;> cases accepted <;> simp_all [after]
  | check permission standing =>
      cases state <;> cases permission <;> simp_all [after, noticing, afterAnswer]
  | notice | failure =>
      intro same
      cases same

/-- A host with the number of the requests that have come to it. -/
structure Counted (H : Type) where
  host : H
  requests : Nat

namespace Gate

variable {H : Type}

def Step.isRequest : Step H → Bool
  | .request => true
  | _ => false

/-- A step of a run, with the gate that it found. -/
structure Stage (H : Type) where
  found : Gate H
  step : Step H

/-- The same gate on a host that counts from the given number on. -/
def counted (gate : Gate H) (requests : Nat) : Gate (Counted H) :=
  ⟨⟨gate.host, requests⟩, gate.state⟩

/-- The same step on a counting host. A change from outside does not touch the count. -/
def Step.counted : Step H → Step (Counted H)
  | .request => .request
  | .check => .check
  | .notify => .notify
  | .fail => .fail
  | .await now timeout => .await now timeout
  | .outside change => .outside fun counted => { counted with host := change counted.host }

variable [Host H]

instance : Host (Counted H) where
  consult counted :=
    let (permission, host) := Host.consult counted.host
    (permission, { counted with host })
  submit counted :=
    let (accepted, host) := Host.submit counted.host
    (accepted, ⟨host, counted.requests + 1⟩)
  standing counted :=
    let (standing, host) := Host.standing counted.host
    (standing, { counted with host })

namespace Stage

def answer (stage : Stage H) : Answer := (stage.found.perform stage.step).1

/-- Whether the stage is a request to a gate that is not open. -/
def submits (stage : Stage H) : Bool := stage.step.isRequest && !stage.found.isEnabled

/-- Whether the stage is a notice or a request that was accepted. -/
def revives (stage : Stage H) : Bool :=
  match stage.step, stage.answer with
  | .request, .accepted accepted => accepted
  | .notify, _ => true
  | _, _ => false

end Stage

def stages (gate : Gate H) : List (Step H) → List (Stage H)
  | [] => []
  | step :: rest => ⟨gate, step⟩ :: (gate.after step).stages rest

section Steps

variable {gate : Gate H} {step : Step H}

theorem after_enabled (opened : gate.state = .enabled) (unfailed : step.isFailure = false) :
    (gate.after step).state = .enabled := by
  rw [← isEnabled_iff] at opened ⊢
  rw [after, gate.perform_isEnabled unfailed, opened, Bool.true_or]

theorem after_failed (failed : gate.state = .failed)
    (unrevived : (Stage.mk gate step).revives = false) : (gate.after step).state = .failed := by
  cases step with
  | request =>
      -- It did not revive the gate, so the host has refused it, and a refusal leaves the state failed.
      have shut : gate.state ≠ .enabled := by simp [failed]
      have refused : (Host.submit gate.host).1 = false := by
        simpa [Stage.revives, Stage.answer, perform, request, shut] using unrevived
      simp [after, perform, request, shut, State.after, refused]
  | check => simp [after, perform, check, failed, State.after, State.noticing, State.afterAnswer]
  | notify => cases unrevived
  | fail => rfl
  | await now timeout => exact failed
  | outside change => exact failed

theorem after_left (left : gate.state ≠ .disabled) : (gate.after step).state ≠ .disabled := by
  rw [gate.after_state step]
  cases gate.move? step with
  | none => exact left
  | some move => exact State.after_ne_disabled left move

theorem request_enabled (opened : gate.state = .enabled) : gate.request = (true, gate) := by
  rw [request, if_pos opened]

theorem request_shut (shut : gate.state ≠ .enabled) :
    gate.request = ((Host.submit gate.host).1,
      ⟨(Host.submit gate.host).2, gate.state.after (.request (Host.submit gate.host).1)⟩) := by
  rw [request, if_neg shut]

theorem request_pending (shut : gate.state ≠ .enabled) (accepted : gate.request.1 = true) :
    gate.request.2.state = .pending := by
  rcases request_awaiting accepted with pending | opened
  · exact pending
  · rw [← isEnabled_iff, request_isEnabled, isEnabled_iff] at opened
    exact absurd opened shut

theorem answer_request {stage : Stage H} (opened : stage.found.state = .enabled)
    (asks : stage.step.isRequest = true) : stage.answer = .accepted true := by
  obtain ⟨found, step⟩ := stage
  cases step with
  | request => simp only [Stage.answer, perform, request_enabled opened]
  | check | notify | fail | await | outside => cases asks

/-- Counting changes no answer and nothing else of the gate. -/
theorem perform_counted (gate : Gate H) (step : Step H) (requests : Nat) :
    (gate.counted requests).perform step.counted =
      ((gate.perform step).1,
        (gate.after step).counted (requests + if (Stage.mk gate step).submits then 1 else 0)) := by
  cases step with
  | request =>
      -- The one step that can reach the host with a request, and only from a gate that is not open.
      by_cases opened : gate.state = .enabled
      · have found : (gate.counted requests).state = .enabled := opened
        have silent : (Stage.mk gate .request).submits = false := by
          rw [Stage.submits, isEnabled_iff.mpr opened]
          rfl
        simp only [Step.counted, perform, after, request_enabled opened, request_enabled found, silent]
        rfl
      · have found : (gate.counted requests).state ≠ .enabled := opened
        have heard : (Stage.mk gate .request).submits = true := by
          rw [Stage.submits, isEnabled, decide_eq_false opened]
          rfl
        simp only [Step.counted, perform, after, request_shut opened, request_shut found, heard]
        rfl
  | check | notify | fail | await | outside => rfl

end Steps

section Runs

variable {gate : Gate H} {steps : List (Step H)}

/-- What every stage of a run keeps is true of the gate that each stage found, and in the end. -/
theorem stages_keep (Holds : State → Prop)
    (kept : ∀ stage ∈ gate.stages steps, Holds stage.found.state →
      Holds (stage.found.after stage.step).state)
    (holds : Holds gate.state) :
    Holds (gate.run steps).state ∧ ∀ stage ∈ gate.stages steps, Holds stage.found.state := by
  induction steps generalizing gate with
  | nil => exact ⟨holds, nofun⟩
  | cons step rest ih =>
      have next := kept ⟨gate, step⟩ List.mem_cons_self holds
      obtain ⟨last, throughout⟩ := ih
        (fun stage member => kept stage (List.mem_cons_of_mem _ member)) next
      refine ⟨last, ?_⟩
      intro stage member
      rcases List.mem_cons.mp member with rfl | later
      · exact holds
      · exact throughout stage later

theorem step_of_stage {stage : Stage H} (member : stage ∈ gate.stages steps) : stage.step ∈ steps := by
  induction steps generalizing gate with
  | nil => cases member
  | cons step rest ih =>
      rcases List.mem_cons.mp member with rfl | later
      · exact List.mem_cons_self
      · exact List.mem_cons_of_mem _ (ih later)

theorem run_counted (gate : Gate H) (steps : List (Step H)) (requests : Nat) :
    (gate.counted requests).run (steps.map Step.counted) =
      (gate.run steps).counted (requests + (gate.stages steps).countP Stage.submits) := by
  induction steps generalizing gate requests with
  | nil => rfl
  | cons step rest ih =>
      have stepped : (gate.counted requests).after step.counted = _ :=
        congrArg Prod.snd (gate.perform_counted step requests)
      show ((gate.counted requests).after step.counted).run (rest.map Step.counted) = _
      rw [stepped, ih, stages, List.countP_cons, Nat.add_assoc, Nat.add_comm (List.countP _ _)]
      rfl

end Runs

/-- Whatever the host answers and however it changes meanwhile, an open gate stays open until it is failed by
hand. Every request in between is answered with yes and none reaches the host. A failed gate stays failed
until a notice opens it or an accepted request makes it pending. A gate that is not disabled will never be.
A counting host counts exactly the requests made while the gate was not open, and is like the host without
the count otherwise. -/
theorem settled_states_last (gate : Gate H) (steps : List (Step H)) :
    (gate.state = .enabled → (∀ step ∈ steps, step.isFailure = false) →
        (gate.run steps).state = .enabled ∧
        (∀ stage ∈ gate.stages steps, stage.step.isRequest = true → stage.answer = .accepted true) ∧
        (gate.counted 0).run (steps.map Step.counted) = (gate.run steps).counted 0) ∧
      (gate.state = .failed → (∀ stage ∈ gate.stages steps, stage.revives = false) →
        (gate.run steps).state = .failed ∧
        ((gate.run steps).request.1 = true → (gate.run steps).request.2.state = .pending) ∧
        (gate.run steps).notify.state = .enabled) ∧
      (gate.state ≠ .disabled → (gate.run steps).state ≠ .disabled) ∧
      (gate.counted 0).run (steps.map Step.counted) =
        (gate.run steps).counted ((gate.stages steps).countP Stage.submits) := by
  have counting := gate.run_counted steps 0
  rw [Nat.zero_add] at counting
  refine ⟨?_, ?_, ?_, counting⟩
  · intro opened unfailed
    obtain ⟨last, throughout⟩ := stages_keep (· = .enabled)
      (fun stage member found => after_enabled found (unfailed _ (step_of_stage member))) opened
    have silent : (gate.stages steps).countP Stage.submits = 0 := by
      rw [List.countP_eq_zero]
      intro stage member
      simp [Stage.submits, isEnabled_iff.mpr (throughout stage member)]
    refine ⟨last, ?_, silent ▸ counting⟩
    intro stage member asks
    exact answer_request (throughout stage member) asks
  · intro failed unrevived
    obtain ⟨last, -⟩ := stages_keep (· = .failed)
      (fun stage member found => after_failed found (unrevived stage member)) failed
    have shut : (gate.run steps).state ≠ .enabled := by simp [last]
    exact ⟨last, request_pending shut, rfl⟩
  · intro left
    exact (stages_keep (· ≠ .disabled) (fun _ _ found => after_left found) left).1

/-- The second request finds the gate open, so the host is asked once, though it has changed its mind. -/
example :
    let steps : List (Step SteeredHost) :=
      [.request, .outside (·.answering .granted), .check, .outside (·.answering .notGranted),
        .outside (·.refusing), .check, .request]
    let gate := ((closed SteeredHost.fresh).counted 0).run (steps.map Step.counted)
    gate.state = .enabled ∧ gate.host.requests = 1 := by
  decide

end Gate

end TwinView.Activation
