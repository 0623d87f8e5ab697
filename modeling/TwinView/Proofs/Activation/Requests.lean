import TwinView.Proofs.Activation.Settled

/-!
What a steered host remembers of its requests. It holds no record of them, only their count in a word and
whether it still accepts. So a request stands as long as nobody has told the host to refuse, but not when the
count has come round to zero: after as many requests as the word has values the host answers as if nobody had
ever asked, and a disabled gate on it stays disabled.
-/

namespace TwinView.Activation

/-- What can be done with a steered host, and with a gate on it. -/
inductive Handling where
  | answer (permission : Permission)
  | refuse
  /-- A request that comes to the host from elsewhere than the gate. -/
  | submit
  | request
  | check
  | notify
  | fail
  | await (now : Span) (timeout : Option Span)

namespace Handling

def step : Handling → Gate.Step SteeredHost
  | .answer permission => .outside (·.answering permission)
  | .refuse => .outside (·.refusing)
  | .submit => .outside fun host => (Host.submit host).2
  | .request => .request
  | .check => .check
  | .notify => .notify
  | .fail => .fail
  | .await now timeout => .await now timeout

/-- Whether the host receives a request. -/
def reaches (gate : Gate SteeredHost) : Handling → Bool
  | .submit => true
  | handling => (Gate.Stage.mk gate handling.step).submits

end Handling

namespace Gate

variable {gate : Gate SteeredHost}

def handled (gate : Gate SteeredHost) (handlings : List Handling) : Gate SteeredHost :=
  gate.run (handlings.map Handling.step)

/-- The run with the gate that each handling found. -/
def met (gate : Gate SteeredHost) : List Handling → List (Gate SteeredHost × Handling)
  | [] => []
  | handling :: rest => (gate, handling) :: (gate.after handling.step).met rest

/-- How many requests the host receives in a run. -/
def received (gate : Gate SteeredHost) (handlings : List Handling) : Nat :=
  (gate.met handlings).countP fun (found, handling) => handling.reaches found

theorem received_cons (gate : Gate SteeredHost) (handling : Handling) (rest : List Handling) :
    gate.received (handling :: rest) =
      (gate.after handling.step).received rest + if handling.reaches gate then 1 else 0 :=
  List.countP_cons

theorem received_pos_iff {handlings : List Handling} :
    0 < gate.received handlings ↔
      ∃ found handling, (found, handling) ∈ gate.met handlings ∧ handling.reaches found = true := by
  rw [received, List.countP_pos_iff, Prod.exists]

theorem after_requests (gate : Gate SteeredHost) (handling : Handling) :
    (gate.after handling.step).host.requests =
      gate.host.requests + if handling.reaches gate then 1 else 0 := by
  cases handling with
  | submit => rfl
  | request =>
      -- An open gate answers by itself; any other passes the request on.
      by_cases opened : gate.state = .enabled
      · have silent : Handling.request.reaches gate = false := by
          simp [Handling.reaches, Handling.step, Stage.submits, isEnabled, opened]
        have same : gate.after Handling.request.step = gate := by
          simp only [after, Handling.step, perform, request_enabled opened]
        simp [silent, same]
      · have heard : Handling.request.reaches gate = true := by
          simp [Handling.reaches, Handling.step, Stage.submits, Step.isRequest, isEnabled, opened]
        simp only [after, Handling.step, perform, request_shut opened, heard]
        rfl
  | answer | refuse | check | notify | fail | await => exact (UInt32.add_zero _).symm

theorem after_accepts (gate : Gate SteeredHost) (handling : Handling) :
    (gate.after handling.step).host.accepts = true ↔
      gate.host.accepts = true ∧ handling ≠ .refuse := by
  cases handling with
  | refuse => simp [after, perform, Handling.step, SteeredHost.refusing]
  | request =>
      by_cases opened : gate.state = .enabled
      · simp [after, perform, Handling.step, request_enabled opened]
      · simp [after, perform, Handling.step, request_shut opened, Host.submit]
  | answer | submit | check | notify | fail | await =>
      simp [after, perform, Handling.step, SteeredHost.answering, Host.submit, Gate.check,
        Gate.notify, Gate.fail, Host.consult, Host.standing]

theorem handled_requests (gate : Gate SteeredHost) (handlings : List Handling) :
    (gate.handled handlings).host.requests =
      gate.host.requests + UInt32.ofNat (gate.received handlings) := by
  -- From any gate, and with words added as they wrap: what is lost of the number is lost once, in `ofNat`.
  induction handlings generalizing gate with
  | nil => exact (UInt32.add_zero _).symm
  | cons handling rest ih =>
      have counted : UInt32.ofNat (if handling.reaches gate then 1 else 0) =
          if handling.reaches gate then 1 else 0 := by
        split <;> rfl
      calc ((gate.after handling.step).handled rest).host.requests
        _ = (gate.after handling.step).host.requests +
              UInt32.ofNat ((gate.after handling.step).received rest) := ih _
        _ = gate.host.requests + UInt32.ofNat (gate.received (handling :: rest)) := by
              rw [after_requests, received_cons, UInt32.ofNat_add, counted, UInt32.add_assoc,
                UInt32.add_comm (UInt32.ofNat _)]

theorem handled_accepts (gate : Gate SteeredHost) (handlings : List Handling) :
    (gate.handled handlings).host.accepts = true ↔
      gate.host.accepts = true ∧ .refuse ∉ handlings := by
  induction handlings generalizing gate with
  | nil => simp [handled, run]
  | cons handling rest ih =>
      have rested : gate.handled (handling :: rest) = (gate.after handling.step).handled rest := rfl
      rw [rested, ih, after_accepts, List.mem_cons, not_or, and_assoc, ne_comm]

/-- A count of zero is no count at all, and a full word counts as zero. -/
theorem counted_pos_iff (count : Nat) : 0 < UInt32.ofNat count ↔ ¬ UInt32.size ∣ count := by
  rw [UInt32.lt_iff_toNat_lt, UInt32.toNat_ofNat', Nat.dvd_iff_mod_eq_zero]
  exact Nat.pos_iff_ne_zero

/-- Whether the host of a gate reports a request. -/
def asked (gate : Gate SteeredHost) : Bool := (Host.standing gate.host).1

theorem asked_handled_iff (handlings : List Handling) :
    ((closed SteeredHost.fresh).handled handlings).asked = true ↔
      ¬ UInt32.size ∣ (closed SteeredHost.fresh).received handlings ∧ .refuse ∉ handlings := by
  have requests := (closed SteeredHost.fresh).handled_requests handlings
  have accepts := (closed SteeredHost.fresh).handled_accepts handlings
  have counted : ((closed SteeredHost.fresh).handled handlings).host.requests =
      UInt32.ofNat ((closed SteeredHost.fresh).received handlings) :=
    requests.trans (UInt32.zero_add _)
  have untold : ((closed SteeredHost.fresh).handled handlings).host.accepts = true ↔
      .refuse ∉ handlings :=
    accepts.trans (and_iff_right rfl)
  have reported : ((closed SteeredHost.fresh).handled handlings).asked =
      (0 < ((closed SteeredHost.fresh).handled handlings).host.requests &&
        ((closed SteeredHost.fresh).handled handlings).host.accepts) := rfl
  rw [reported, Bool.and_eq_true, decide_eq_true_iff, counted, counted_pos_iff, untold]

/-- A disabled gate is left at a check for one of two reasons only. -/
theorem check_leaves_iff (unasked : gate.state = .disabled) :
    gate.check.1 ≠ .disabled ↔
      gate.asked = true ∨ ∃ reason, gate.host.permission = .unavailable reason := by
  have checked : gate.check.1 =
      (State.noticing gate.asked .disabled).afterAnswer gate.host.permission := by
    rw [← unasked]
    rfl
  rw [checked]
  cases gate.asked <;> cases gate.host.permission <;> simp [State.noticing, State.afterAnswer]

theorem received_submits (gate : Gate SteeredHost) (count : Nat) :
    gate.received (List.replicate count .submit) = count := by
  induction count generalizing gate with
  | zero => rfl
  | succ count ih =>
      rw [List.replicate_succ, received_cons, ih]
      rfl

/-- A request from elsewhere is news to the host only. -/
theorem handled_submits (gate : Gate SteeredHost) (count : Nat) :
    (gate.handled (List.replicate count .submit)).state = gate.state ∧
      (gate.handled (List.replicate count .submit)).host.permission = gate.host.permission := by
  induction count generalizing gate with
  | zero => exact ⟨rfl, rfl⟩
  | succ count ih => exact ih (gate.after Handling.submit.step)

theorem submits_forgotten {count : Nat} (whole : UInt32.size ∣ count) :
    let gate := (closed SteeredHost.fresh).handled (List.replicate count .submit)
    gate.asked = false ∧ gate.state = .disabled ∧ gate.check.1 = .disabled := by
  intro gate
  obtain ⟨state, permission⟩ := (closed SteeredHost.fresh).handled_submits count
  have unasked : ¬ gate.asked = true := by
    rw [asked_handled_iff, received_submits]
    intro ⟨broken, _⟩
    exact broken whole
  refine ⟨Bool.not_eq_true _ ▸ unasked, state, ?_⟩
  by_contra left
  rcases (check_leaves_iff state).mp left with asked | ⟨reason, unavailable⟩
  · exact unasked asked
  · cases permission.symm.trans unavailable

/-- In a run of any length from the start, the host reports a request exactly if the number of those it has
received is no multiple of the size of its word and it has not been told to refuse. Until the word is full
this is to say that some request has come. A disabled gate leaves that state at the next check if the host
reports a request or finds the permission out of reach, and else stays. -/
theorem requests_remembered_below_word (handlings : List Handling) :
    let start := closed SteeredHost.fresh
    let gate := start.handled handlings
    (gate.asked = true ↔ ¬ UInt32.size ∣ start.received handlings ∧ .refuse ∉ handlings) ∧
      (start.received handlings < UInt32.size →
        (gate.asked = true ↔ (∃ found handling, (found, handling) ∈ start.met handlings ∧
          handling.reaches found = true) ∧ .refuse ∉ handlings)) ∧
      (gate.state = .disabled → (gate.check.1 ≠ .disabled ↔
        gate.asked = true ∨ ∃ reason, (Host.consult gate.host).1 = .unavailable reason)) := by
  intro start gate
  refine ⟨asked_handled_iff handlings, ?_, check_leaves_iff⟩
  -- Zero is the only multiple that a run can reach before the word is full.
  intro below
  have short : ¬ UInt32.size ∣ start.received handlings ↔ 0 < start.received handlings := by
    constructor
    · intro whole
      apply Nat.pos_of_ne_zero
      intro none
      exact whole (none ▸ Nat.dvd_zero _)
    · intro some
      exact Nat.not_dvd_of_pos_of_lt some below
  rw [← received_pos_iff, ← short]
  exact asked_handled_iff handlings

/-- The request that fills the word takes back all of them, and the gate does not hear of any. -/
theorem full_word_of_requests_forgotten :
    Handling.submit ∈ List.replicate UInt32.size Handling.submit ∧
      Handling.refuse ∉ List.replicate UInt32.size Handling.submit ∧
      let gate := (closed SteeredHost.fresh).handled (List.replicate UInt32.size .submit)
      gate.asked = false ∧ gate.state = .disabled ∧ gate.check.1 = .disabled := by
  refine ⟨List.mem_replicate.mpr ⟨by decide, rfl⟩, ?_, submits_forgotten (Nat.dvd_refl _)⟩
  intro refused
  cases (List.mem_replicate.mp refused).2

end Gate

end TwinView.Activation
