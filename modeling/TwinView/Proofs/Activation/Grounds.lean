import Mathlib.Data.List.Induction
import TwinView.Activation.Gate

/-!
Why a gate stands open. A run of a gate is the list of its moves, each with what the host answered to it, and
the moves alone decide the state. A gate is open only on grounds: a notice, or a check that found the
permission after somebody had asked for it, and no failure since. A host that grants from the start gives
none. The other way round, once a request stands, the first check that finds the permission opens the gate.
-/

namespace TwinView.Activation

namespace Move

/-- Whether a request stands with the host by this move. -/
def asks : Move → Bool
  | .request accepted => accepted
  | .check _ standing => standing
  | .notice | .failure => false

/-- Whether the move may fail a gate. -/
def spoils : Move → Bool
  | .request accepted => !accepted
  | .check (.unavailable _) _ => true
  | .failure => true
  | _ => false

end Move

def Grounded (moves : List Move) : Prop :=
  ∃ earlier move later, moves = earlier ++ move :: later ∧ .failure ∉ later ∧
    (move = .notice ∨ ∃ standing, move = .check .granted standing ∧
      ∃ asking ∈ earlier ++ [move], asking.asks = true)

namespace State

variable {state : State} {move : Move}

theorem asked_of_after_pending (pending : state.after move = .pending) :
    state = .pending ∨ move.asks = true := by
  cases move with
  | request accepted => cases state <;> cases accepted <;> simp_all [after, Move.asks]
  | check permission standing =>
      -- Only a standing request brings a check to pending; otherwise it was pending before.
      cases standing with
      | true => exact Or.inr rfl
      | false => cases state <;> cases permission <;> simp_all [after, noticing, afterAnswer]
  | notice => cases pending
  | failure => cases pending

theorem opened_by (opened : state.after move = .enabled) :
    (state = .enabled ∧ move ≠ .failure) ∨ move = .notice ∨
      ∃ standing, move = .check .granted standing ∧ (state = .pending ∨ standing = true) := by
  cases move with
  | request accepted => cases state <;> cases accepted <;> simp_all [after]
  | check permission standing =>
      cases state <;> cases permission <;> cases standing <;>
        simp_all [after, noticing, afterAnswer]
  | notice => exact Or.inr (Or.inl rfl)
  | failure => cases opened

/-- A move that does not spoil leaves a pending request pending or opens the gate. -/
theorem after_awaiting (unspoiled : move.spoils = false)
    (awaiting : state = .pending ∨ state = .enabled) :
    state.after move = .pending ∨ state.after move = .enabled := by
  rcases awaiting with rfl | rfl
  · cases move with
    | request accepted => cases accepted <;> simp_all [after, Move.spoils]
    | check permission standing =>
        cases permission <;> simp_all [after, noticing, afterAnswer, Move.spoils]
    | notice => exact Or.inr rfl
    | failure => cases unspoiled
  · cases move with
    | failure => cases unspoiled
    | _ => exact Or.inr rfl

theorem after_granted (standing : Bool) (awaiting : state = .pending ∨ state = .enabled) :
    state.after (.check .granted standing) = .enabled := by
  rcases awaiting with rfl | rfl <;> rfl

theorem foldl_awaiting {moves : List Move} (unspoiled : ∀ move ∈ moves, move.spoils = false)
    (awaiting : state = .pending ∨ state = .enabled) :
    moves.foldl after state = .pending ∨ moves.foldl after state = .enabled := by
  induction moves generalizing state with
  | nil => exact awaiting
  | cons move rest ih =>
      apply ih
      · intro other member
        exact unspoiled other (List.mem_cons_of_mem _ member)
      · exact after_awaiting (unspoiled move List.mem_cons_self) awaiting

end State

section Runs

variable {moves : List Move}

theorem asked_of_pending (pending : moves.foldl State.after .disabled = .pending) :
    ∃ asking ∈ moves, asking.asks = true := by
  induction moves using List.reverseRecOn with
  | nil => cases pending
  | append_singleton earlier last ih =>
      rw [List.foldl_append] at pending
      rcases State.asked_of_after_pending pending with before | asks
      · obtain ⟨asking, member, asks⟩ := ih before
        exact ⟨asking, List.mem_append_left _ member, asks⟩
      · exact ⟨last, List.mem_append_right _ (List.mem_singleton_self last), asks⟩

theorem Grounded.kept {last : Move} (grounded : Grounded moves) (unfailed : last ≠ .failure) :
    Grounded (moves ++ [last]) := by
  obtain ⟨earlier, move, later, rfl, unfailed', reason⟩ := grounded
  refine ⟨earlier, move, later ++ [last], by simp, ?_, reason⟩
  simp [unfailed', unfailed.symm]

theorem grounded_of_enabled (opened : moves.foldl State.after .disabled = .enabled) :
    Grounded moves := by
  -- The induction is on the last move, since the grounds are what came before it.
  induction moves using List.reverseRecOn with
  | nil => cases opened
  | append_singleton earlier last ih =>
      rw [List.foldl_append] at opened
      rcases State.opened_by opened with ⟨before, unfailed⟩ | notice | ⟨standing, rfl, asked⟩
      · exact (ih before).kept unfailed
      · exact ⟨earlier, last, [], rfl, List.not_mem_nil, Or.inl notice⟩
      · refine ⟨earlier, _, [], rfl, List.not_mem_nil, Or.inr ⟨standing, rfl, ?_⟩⟩
        rcases asked with pending | stands
        · obtain ⟨asking, member, asks⟩ := asked_of_pending pending
          exact ⟨asking, List.mem_append_left _ member, asks⟩
        · exact ⟨_, List.mem_append_right _ (List.mem_singleton_self _), stands⟩

end Runs

namespace Gate

variable {H : Type} [Host H]

/-- The move that a step makes, with the answers of the host. A request to an open gate does not reach the
host and moves nothing. -/
def move? (gate : Gate H) : Step H → Option Move
  | .request =>
      if gate.state = .enabled then none else some (.request (Host.submit gate.host).1)
  | .check =>
      let (permission, consulted) := Host.consult gate.host
      some (.check permission (Host.standing consulted).1)
  | .notify => some .notice
  | .fail => some .failure
  | .await _ _ | .outside _ => none

def after (gate : Gate H) (step : Step H) : Gate H := (gate.perform step).2

def run (gate : Gate H) (steps : List (Step H)) : Gate H := steps.foldl after gate

/-- The moves of a run, the first one first. -/
def moves (gate : Gate H) : List (Step H) → List Move
  | [] => []
  | step :: rest => (gate.move? step).toList ++ (gate.after step).moves rest

theorem after_state (gate : Gate H) (step : Step H) :
    (gate.after step).state = (gate.move? step).toList.foldl State.after gate.state := by
  cases step with
  | request =>
      by_cases opened : gate.state = .enabled <;>
        simp [after, perform, request, move?, opened]
  | check | notify | fail | await | outside => rfl

theorem run_state (gate : Gate H) (steps : List (Step H)) :
    (gate.run steps).state = (gate.moves steps).foldl State.after gate.state := by
  induction steps generalizing gate with
  | nil => rfl
  | cons step rest ih =>
      rw [moves, List.foldl_append, ← gate.after_state step]
      exact ih (gate.after step)

/-- After a request that was accepted, or that found the gate open, the gate waits or is open. -/
theorem request_awaiting {gate : Gate H} (accepted : gate.request.1 = true) :
    gate.request.2.state = .pending ∨ gate.request.2.state = .enabled := by
  by_cases opened : gate.state = .enabled
  · simp [request, opened]
  · simp only [request, if_neg opened] at accepted ⊢
    rw [accepted]
    simp [State.after, opened]

theorem check_opens {gate : Gate H} (steps : List (Step H)) (accepted : gate.request.1 = true)
    (unspoiled : ∀ move ∈ gate.request.2.moves steps, move.spoils = false)
    (granted : (Host.consult (gate.request.2.run steps).host).1 = .granted) :
    (gate.request.2.run steps).check.1 = .enabled := by
  have awaiting := State.foldl_awaiting unspoiled (request_awaiting accepted)
  rw [← run_state] at awaiting
  simp only [check, granted]
  exact State.after_granted _ awaiting

end Gate

end TwinView.Activation
