import TwinView.Contention.Polling
import TwinView.Proofs.Activation.Grounds
import TwinView.Proofs.Contention.Latest

/-!
What a check of a gate goes by when it opens the gate. The host is consulted before the gate is taken, so the
permission may be old by the time it counts. It was there when the check consulted the host, but the request
that makes it count may come later: another thread can issue it between the consultation and the move. A gate
that no request had reached by the move is never opened by a check.
-/

namespace TwinView.Contention.Polling

open Activation (Move Permission State SteeredHost)

/-- What a step of a thread does, and where the thread stands for it. -/
inductive Effect (thread : Nat) (before : System) : Choice → System → Prop where
  | consulted (idle : before.phases thread = .idle) :
      Effect thread before .consult (consult thread before)
  | informed {permission : Permission} {preceded : Bool}
      (asked : before.phases thread = .consulted permission preceded) :
      Effect thread before .inform (inform thread permission preceded before)
  | moved {permission : Permission} {preceded standing : Bool}
      (told : before.phases thread = .informed permission preceded standing) :
      Effect thread before .move (move thread permission standing before)
  | requested (idle : before.phases thread = .idle) :
      Effect thread before .request (request before)
  | notified (idle : before.phases thread = .idle) :
      Effect thread before .notify { before with gate := before.gate.notify }
  | failed (idle : before.phases thread = .idle) :
      Effect thread before .fail { before with gate := before.gate.fail }
  | answered (permission : Permission) (idle : before.phases thread = .idle) :
      Effect thread before (.answer permission)
        { before with gate := { before.gate with host := before.gate.host.answering permission } }

section Steps

variable {thread : Nat} {before after : System} {choice : Choice}

theorem next_effect (taken : next thread choice before = some after) :
    Effect thread before choice after := by
  unfold next at taken
  split at taken
  next idle => cases taken; exact .consulted idle
  next asked => cases taken; exact .informed asked
  next told => cases taken; exact .moved told
  next idle => cases taken; exact .requested idle
  next idle => cases taken; exact .notified idle
  next idle => cases taken; exact .failed idle
  next permission idle => cases taken; exact .answered permission idle
  next => cases taken

theorem Effect.phases_other (effect : Effect thread before choice after) {other : Nat}
    (different : other ≠ thread) : after.phases other = before.phases other := by
  cases effect with
  | consulted | informed | moved => exact moved_other _ _ different
  | requested | notified | failed | answered => rfl

theorem Effect.reached_of_reached (effect : Effect thread before choice after)
    (reached : after.reached = true) : before.reached = true ∨ choice = .request := by
  cases effect with
  | requested => exact Or.inr rfl
  | _ => exact Or.inl reached

theorem reached_of_run {taken : List (Nat × Choice)} (ran : run next taken before = some after)
    (reached : after.reached = true) :
    before.reached = true ∨ ∃ caller, (caller, .request) ∈ taken := by
  induction taken generalizing before with
  | nil =>
      cases ran
      exact Or.inl reached
  | cons step rest ih =>
      obtain ⟨caller, choice⟩ := step
      obtain ⟨between, taken, ran⟩ := Option.bind_eq_some_iff.mp ran
      rcases ih ran with earlier | ⟨caller, member⟩
      · rcases (next_effect taken).reached_of_reached earlier with first | rfl
        · exact Or.inl first
        · exact Or.inr ⟨caller, List.mem_cons_self⟩
      · exact Or.inr ⟨caller, List.mem_cons_of_mem _ member⟩

end Steps

/-- Whatever makes a permission count goes back to a request that has reached the host. -/
structure Requested (system : System) : Prop where
  pending : system.gate.state = .pending → system.reached = true
  counted : system.gate.host.requests ≠ 0 → system.reached = true
  told : ∀ {thread permission preceded},
    system.phases thread = .informed permission preceded true → system.reached = true

theorem start_requested (permission : Permission) (accepts : Bool) :
    Requested (start ⟨permission, accepts, 0⟩) where
  pending := nofun
  counted count := absurd rfl count
  told := nofun

section Requests

variable {system : System}

theorem Requested.request (requested : Requested system) : Requested (request system) := by
  by_cases opened : system.gate.state = .enabled
  · -- A request to an enabled gate does not reach the host.
    have same : Polling.request system = system := by
      simp [Polling.request, Activation.Gate.request, Activation.Gate.isEnabled, opened]
    rwa [same]
  · have reached : (Polling.request system).reached = true := by
      simp [Polling.request, Activation.Gate.isEnabled, opened]
    exact ⟨fun _ => reached, fun _ => reached, fun _ => reached⟩

theorem Requested.enter (requested : Requested system) {thread : Nat} {phase : Phase}
    (told : ∀ permission preceded, phase = .informed permission preceded true →
      system.reached = true) : Requested (enter system thread phase) where
  pending := requested.pending
  counted := requested.counted
  told := by
    intro other permission preceded informed
    by_cases same : other = thread
    · subst same
      exact told permission preceded ((moved_self _ _ _).symm.trans informed)
    · exact requested.told ((moved_other _ _ same).symm.trans informed)

/-- A check that has been told of a standing request, or that finds one pending, moves on the strength of a
request that has reached the host. -/
theorem Requested.reached (requested : Requested system) {thread : Nat} {permission : Permission}
    {preceded standing : Bool}
    (told : system.phases thread = .informed permission preceded standing)
    (asked : system.gate.state = .pending ∨ standing = true) : system.reached = true := by
  rcases asked with pending | rfl
  · exact requested.pending pending
  · exact requested.told told

theorem Requested.withState (requested : Requested system) {state : State}
    (pending : state = .pending → system.reached = true) :
    Requested { system with gate := { system.gate with state := state } } where
  pending := pending
  counted := requested.counted
  told := requested.told

theorem Requested.next {after : System} {thread : Nat} {choice : Choice}
    (requested : Requested system) (taken : next thread choice system = some after) :
    Requested after := by
  cases next_effect taken with
  | consulted => exact requested.enter nofun
  | informed =>
      refine requested.enter ?_
      intro permission preceded told
      injection told with _ _ standing
      rw [Bool.and_eq_true, decide_eq_true_iff] at standing
      exact requested.counted (UInt32.ne_of_lt standing.1).symm
  | moved told =>
      refine Requested.enter (requested.withState ?_) nofun
      intro pending
      exact requested.reached told (State.asked_of_after_pending pending)
  | requested => exact requested.request
  | notified => exact requested.withState nofun
  | failed => exact requested.withState nofun
  | answered => exact ⟨requested.pending, requested.counted, requested.told⟩

theorem Requested.run {taken : List (Nat × Choice)} {after : System}
    (requested : Requested system) (ran : run Polling.next taken system = some after) :
    Requested after :=
  run_keeps Requested (fun moves before => before.next moves) ran requested

end Requests

/-- What the host has answered to a check under way, and whether a request had reached it by then. -/
def Phase.answer? : Phase → Option (Permission × Bool)
  | .idle => none
  | .consulted permission preceded => some (permission, preceded)
  | .informed permission preceded _ => some (permission, preceded)

/-- In the run the thread has consulted the host, with this answer, and has at most been informed since. -/
def Consulted (first : System) (taken : List (Nat × Choice)) (thread : Nat)
    (answer : Permission × Bool) : Prop :=
  ∃ earlier between asked, taken = earlier ++ (thread, .consult) :: between ∧
    (∀ choice, (thread, choice) ∈ between → choice = .inform) ∧
    run next earlier first = some asked ∧ (asked.gate.host.permission, asked.reached) = answer

/-- The answer to a check under way was found by this step, or before. -/
theorem Effect.answer_cases {stepping thread : Nat} {choice : Choice} {before after : System}
    (effect : Effect stepping before choice after) {answer : Permission × Bool}
    (answered : (after.phases thread).answer? = some answer) :
    ((stepping, choice) = (thread, .consult) ∧
        (before.gate.host.permission, before.reached) = answer) ∨
      (before.phases thread).answer? = some answer ∧ (stepping = thread → choice = .inform) := by
  by_cases same : stepping = thread
  · subst same
    cases effect with
    | consulted =>
        have found := (congrArg Phase.answer? (moved_self _ _ _)).symm.trans answered
        exact Or.inl ⟨rfl, Option.some.inj found⟩
    | informed asked =>
        have told := (congrArg Phase.answer? (moved_self _ _ _)).symm.trans answered
        exact Or.inr ⟨(congrArg Phase.answer? asked).trans told, fun _ => rfl⟩
    | moved => cases (congrArg Phase.answer? (moved_self _ _ _)).symm.trans answered
    | requested idle | notified idle | failed idle | answered _ idle =>
        cases (congrArg Phase.answer? idle).symm.trans answered
  · rw [effect.phases_other (Ne.symm same)] at answered
    exact Or.inr ⟨answered, fun equal => absurd equal same⟩

section Consultations

variable {first last : System} {taken : List (Nat × Choice)} {thread : Nat}
  {answer : Permission × Bool}

theorem consulted_of_answer (idle : first.phases thread = .idle)
    (ran : run next taken first = some last)
    (answered : (last.phases thread).answer? = some answer) :
    Consulted first taken thread answer := by
  -- The answer stays with the thread until it moves, so it goes back to the latest consultation.
  have latest : Latest next first taken
      (fun asked step => step = (thread, .consult) ∧
        (asked.gate.host.permission, asked.reached) = answer)
      fun step => step.1 = thread → step.2 = .inform := by
    apply latest_of_holds (fun system => (system.phases thread).answer? = some answer) ?_ ?_ ran answered
    · intro answered
      rw [idle] at answered
      cases answered
    · intro _ stepping choice before after _ moves answered
      exact (next_effect moves).answer_cases answered
  obtain ⟨earlier, step, between, asked, rfl, consulting, ⟨rfl, found⟩, informing⟩ := latest
  refine ⟨earlier, between, asked, rfl, ?_, consulting, found⟩
  intro choice member
  exact informing _ member rfl

end Consultations

/-- The thread ends a check with this step, and the step opens the gate. -/
def Opens (thread : Nat) (before after : System) : Prop :=
  next thread .move before = some after ∧ before.gate.isEnabled = false ∧
    after.gate.isEnabled = true

theorem Opens.told {thread : Nat} {before after : System} (opens : Opens thread before after) :
    ∃ preceded standing, before.phases thread = .informed .granted preceded standing ∧
      (before.gate.state = .pending ∨ standing = true) := by
  obtain ⟨moves, closed, opened⟩ := opens
  cases next_effect moves with
  | @moved permission preceded standing told =>
      have ended : before.gate.state.after (.check permission standing) = .enabled :=
        of_decide_eq_true opened
      rcases State.opened_by ended with ⟨earlier, _⟩ | notice | ⟨_, granted, asked⟩
      · exact absurd earlier (of_decide_eq_false closed)
      · cases notice
      · cases granted
        exact ⟨preceded, standing, told, asked⟩

/-- A check that nobody interrupts leaves the gate as a check as a whole does. -/
theorem gate_of_check {thread : Nat} {asked before after : System}
    (ran : run next [(thread, .consult), (thread, .inform)] asked = some before)
    (moves : next thread .move before = some after) : after.gate = asked.gate.check.2 := by
  have idle : asked.phases thread = .idle := by
    cases phase : asked.phases thread with
    | idle => rfl
    | consulted | informed => simp [run, next, phase] at ran
  have ended : run next ([(thread, .consult), (thread, .inform)] ++ [(thread, .move)]) asked = some after := by
    rw [run_snoc, ran]
    exact moves
  have checked := run_check asked thread idle
  rw [List.cons_append, List.cons_append, List.nil_append] at ended
  rw [ended] at checked
  exact Option.some.inj checked

/-- It is not so that a request has always reached the host when a check that opens the gate consults it. -/
theorem opened_on_earlier_answer :
    ¬ ∀ (thread : Nat) (taken : List (Nat × Choice)) (before after : System),
      run next taken (start .fresh) = some before → Opens thread before after →
        ∀ permission preceded standing,
          before.phases thread = .informed permission preceded standing → preceded = true := by
  intro always
  have preceded := always 0 [(1, .answer .granted), (0, .consult), (1, .request), (0, .inform)] _ _
    rfl ⟨rfl, rfl, rfl⟩ .granted false true rfl
  cases preceded

/-- A check that opens the gate goes by the permission that it found when it consulted the host, and a request
has reached the host by its last step. That request came before the consultation, or from another thread
between the consultation and the last step. If nobody acts in between, the steps are a check as a whole. -/
theorem opened_after_request (permission : Permission) (accepts : Bool) (thread : Nat)
    (taken : List (Nat × Choice)) (before after : System)
    (ran : run next taken (start ⟨permission, accepts, 0⟩) = some before)
    (opens : Opens thread before after) :
    ∃ earlier between asked, taken = earlier ++ (thread, .consult) :: between ∧
      (∀ choice, (thread, choice) ∈ between → choice = .inform) ∧
      run next earlier (start ⟨permission, accepts, 0⟩) = some asked ∧
      asked.gate.host.permission = .granted ∧ before.reached = true ∧
      (asked.reached = true ∨ ∃ caller, caller ≠ thread ∧ (caller, .request) ∈ between) ∧
      (between = [(thread, .inform)] → after.gate = asked.gate.check.2) := by
  obtain ⟨preceded, standing, told, asked⟩ := opens.told
  have reached := ((start_requested permission accepts).run ran).reached told asked
  have answered : (before.phases thread).answer? = some (.granted, preceded) :=
    congrArg Phase.answer? told
  obtain ⟨earlier, between, asked, rfl, informing, consulting, answer⟩ :=
    consulted_of_answer rfl ran answered
  rw [run_append, consulting] at ran
  refine ⟨earlier, between, asked, rfl, informing, consulting, congrArg Prod.fst answer, reached, ?_, ?_⟩
  -- Only a request makes the host reached, and the thread itself makes none during its check.
  · rcases reached_of_run ran reached with already | ⟨caller, member⟩
    · exact Or.inl already
    · refine Or.inr ⟨caller, ?_, (List.mem_cons.mp member).resolve_left nofun⟩
      rintro rfl
      have inform := informing .request ((List.mem_cons.mp member).resolve_left nofun)
      cases inform
  · rintro rfl
    exact gate_of_check ran opens.1

/-- A request in the window between the consultation and the last step of a check. -/
theorem overtaken_check_opens :
    let taken : List (Nat × Choice) :=
      [(1, .answer .granted), (0, .consult), (1, .request), (0, .inform)]
    ∃ before after, run next taken (start .fresh) = some before ∧ Opens 0 before after ∧
      ∃ earlier between asked, taken = earlier ++ (0, .consult) :: between ∧
        run next earlier (start .fresh) = some asked ∧ asked.gate.host.permission = .granted ∧
        (asked.reached = true ∨ ∃ caller, caller ≠ 0 ∧ (caller, .request) ∈ between) := by
  intro taken
  refine ⟨_, _, rfl, ⟨rfl, rfl, rfl⟩, ?_⟩
  obtain ⟨earlier, between, asked, split, _, ran, granted, _, requested, _⟩ :=
    opened_after_request .notGranted true 0 taken _ _ rfl ⟨rfl, rfl, rfl⟩
  exact ⟨earlier, between, asked, split, ran, granted, requested⟩

end TwinView.Contention.Polling
