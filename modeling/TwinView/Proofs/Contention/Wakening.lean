import TwinView.Contention.Waiters
import TwinView.Proofs.Contention.Latest

/-!
What a wait for a gate comes to. A move that changes the state wakes every parked thread, and a thread parks
only where it has found the gate unsettled, so nobody is parked while the gate is settled, and whoever looks
then comes back with the state. A wait gives up only if it had a bound, its time was up when it woke, and it
still finds the gate unsettled. Waiting itself never moves the gate.
-/

namespace TwinView.Contention.Waiters

open Activation (Move State outcomeCode)

/-- The wait that a thread is in. -/
def Phase.wait? : Phase → Option Wait
  | .parked wait => some wait
  | .woken wait _ => some wait
  | .idle => none
  | .returned _ _ => none

/-- Whether the step goes on with a wait. -/
def Choice.resumes : Choice → Bool
  | .expire | .stir | .look => true
  | .wait _ _ | .act _ => false

/-- Whether the step begins a wait or goes on with one. -/
def Choice.isWaiting : Choice → Bool
  | .act _ => false
  | _ => true

/-- What a step of a thread does, and where the thread stands for it. -/
inductive Effect (thread : Nat) (before : System) : Choice → System → Prop where
  | called (now : Span) (timeout : Option Span) (free : (before.phases thread).wait? = none) :
      Effect thread before (.wait now timeout)
        (enter before thread (look (begun now timeout) false before.state))
  | expired {wait : Wait} (parked : before.phases thread = .parked wait) :
      Effect thread before .expire (enter before thread (.woken wait true))
  | stirred {wait : Wait} (parked : before.phases thread = .parked wait) :
      Effect thread before .stir (enter before thread (.woken wait false))
  | looked {wait : Wait} {expired : Bool} (woken : before.phases thread = .woken wait expired) :
      Effect thread before .look (enter before thread (look wait expired before.state))
  | acted (move : Move) (free : (before.phases thread).wait? = none) :
      Effect thread before (.act move) (act move before)

section Looks

variable {wait : Wait} {expired : Bool} {state : State}

theorem look_settled (settled : state.isSettled = true) :
    look wait expired state = .returned wait.timeout (.ok state) := by
  simp only [look, settled, ↓reduceIte]

theorem look_wait? {other : Wait} (waiting : (look wait expired state).wait? = some other) :
    other = wait := by
  unfold look at waiting
  split at waiting
  · cases waiting
  · split at waiting
    · split at waiting
      · cases waiting
      · cases waiting
        rfl
    · cases waiting
      rfl

/-- How a wait comes back, with the code of its outcome. -/
inductive Answered (state : State) (timeout : Option Span) : Except Fault State → UInt8 → Prop where
  | opened : state = .enabled → Answered state timeout (.ok .enabled) 2
  | failed : state = .failed → Answered state timeout (.ok .failed) 3
  | expired {bound : Span} : state.isSettled = false → timeout = some bound →
      Answered state timeout (.error (.waitExpired bound)) 255

theorem look_returned {timeout : Option Span} {outcome : Except Fault State}
    (returned : look wait expired state = .returned timeout outcome) :
    timeout = wait.timeout ∧ Answered state timeout outcome (outcomeCode outcome) ∧
      ((∃ fault, outcome = .error fault) → expired = true) := by
  cases settled : state.isSettled with
  | true =>
      rw [look_settled settled] at returned
      cases returned
      refine ⟨rfl, ?_, nofun⟩
      cases state with
      | enabled => exact Answered.opened rfl
      | failed => exact Answered.failed rfl
      | disabled | pending => cases settled
  | false =>
      simp only [look, settled, Bool.false_eq_true, ↓reduceIte] at returned
      split at returned
      next bound bounded =>
        split at returned
        next up =>
          cases returned
          exact ⟨rfl, Answered.expired settled bounded, fun _ => up⟩
        next => cases returned
      next => cases returned

end Looks

theorem enter_self (system : System) (thread : Nat) (phase : Phase) :
    (enter system thread phase).phases thread = phase := moved_self _ _ _

theorem enter_other (system : System) {thread other : Nat} (phase : Phase)
    (different : other ≠ thread) :
    (enter system thread phase).phases other = system.phases other := moved_other _ _ different

theorem wakened_wait? (phase : Phase) : (wakened phase).wait? = phase.wait? := by
  cases phase <;> rfl

theorem wakened_unparked (phase : Phase) (wait : Wait) : wakened phase ≠ .parked wait := by
  intro parked
  cases phase <;> cases parked

theorem eq_of_wakened {phase : Phase} {wait : Wait} (woken : wakened phase = .woken wait true) :
    phase = .woken wait true := by
  cases phase with
  | parked => cases woken
  | idle | woken | returned => exact woken

theorem act_cases (move : Move) (system : System) :
    act move system = system ∨
      act move system = ⟨system.state.after move, fun thread => wakened (system.phases thread)⟩ := by
  by_cases same : system.state.after move = system.state
  · exact Or.inl (if_pos same)
  · exact Or.inr (if_neg same)

theorem act_wait? (move : Move) (system : System) (thread : Nat) :
    ((act move system).phases thread).wait? = (system.phases thread).wait? := by
  rcases act_cases move system with same | woke
  · rw [same]
  · rw [woke]
    exact wakened_wait? _

section Steps

variable {thread : Nat} {before after : System} {choice : Choice}

theorem next_effect (taken : next thread choice before = some after) :
    Effect thread before choice after := by
  unfold next at taken
  split at taken
  next now timeout idle =>
    cases taken
    exact .called now timeout (by rw [idle]; rfl)
  next now timeout _ _ returned =>
    cases taken
    exact .called now timeout (by rw [returned]; rfl)
  next wait parked =>
    split at taken
    · cases taken
      exact .expired parked
    · cases taken
  next wait parked => cases taken; exact .stirred parked
  next wait expired woken => cases taken; exact .looked woken
  next move idle => cases taken; exact .acted move (by rw [idle]; rfl)
  next move _ _ returned => cases taken; exact .acted move (by rw [returned]; rfl)
  next => cases taken

theorem Effect.state_kept (effect : Effect thread before choice after)
    (waiting : choice.isWaiting = true) : after.state = before.state := by
  cases effect with
  | acted => cases waiting
  | _ => rfl

/-- A wait that a thread is in after a step was there before, or the step has begun it. -/
theorem Effect.wait_cases {stepping : Nat} (effect : Effect stepping before choice after) {wait : Wait}
    (waiting : (after.phases thread).wait? = some wait) :
    (∃ now timeout, (stepping, choice) = (thread, .wait now timeout) ∧ wait = begun now timeout) ∨
      (before.phases thread).wait? = some wait ∧ (stepping = thread → choice.resumes = true) := by
  by_cases same : stepping = thread
  · subst same
    cases effect with
    | called now timeout =>
        rw [enter_self] at waiting
        exact Or.inl ⟨now, timeout, rfl, look_wait? waiting⟩
    | expired parked | stirred parked =>
        rw [enter_self] at waiting
        exact Or.inr ⟨by rw [parked]; exact waiting, fun _ => rfl⟩
    | looked woken =>
        rw [enter_self] at waiting
        exact Or.inr ⟨by rw [woken, look_wait? waiting]; rfl, fun _ => rfl⟩
    | acted move free =>
        rw [act_wait?, free] at waiting
        cases waiting
  · refine Or.inr ⟨?_, fun equal => absurd equal same⟩
    cases effect with
    | called | expired | stirred | looked =>
        rwa [enter_other _ _ (Ne.symm same)] at waiting
    | acted move => rwa [act_wait?] at waiting

/-- A thread whose time was up when it woke has just woken so, or did before. -/
theorem Effect.expired_cases {stepping : Nat} (effect : Effect stepping before choice after) {wait : Wait}
    (woken : after.phases thread = .woken wait true) :
    (stepping, choice) = (thread, .expire) ∨
      before.phases thread = .woken wait true ∧ stepping ≠ thread := by
  by_cases same : stepping = thread
  · subst same
    cases effect with
    | expired => exact Or.inl rfl
    | stirred => cases (enter_self _ _ _).symm.trans woken
    | called | looked =>
        have looks := (enter_self _ _ _).symm.trans woken
        unfold look at looks
        split at looks
        · cases looks
        · split at looks
          · split at looks <;> cases looks
          · cases looks
    | acted move free =>
        have waiting := congrArg Phase.wait? woken
        rw [act_wait?, free] at waiting
        cases waiting
  · refine Or.inr ⟨?_, same⟩
    cases effect with
    | called | expired | stirred | looked => exact (enter_other _ _ (Ne.symm same)).symm.trans woken
    | acted move =>
        -- A thread that the move wakes has not run out of time.
        rcases act_cases move before with unmoved | woke
        · rwa [unmoved] at woken
        · rw [woke] at woken
          exact eq_of_wakened woken

end Steps

/-- While the gate is settled, nobody is parked: whoever waits has been woken and has yet to look. -/
def Unparked (system : System) : Prop :=
  system.state.isSettled = true → ∀ thread wait, system.phases thread ≠ .parked wait

theorem start_unparked : Unparked start := nofun

section Parking

variable {system : System}

theorem Unparked.enter (unparked : Unparked system) (thread : Nat) {phase : Phase}
    (standing : system.state.isSettled = true → ∀ wait, phase ≠ .parked wait) :
    Unparked (enter system thread phase) := by
  intro settled other wait parked
  by_cases same : other = thread
  · subst same
    exact standing settled wait ((enter_self _ _ _).symm.trans parked)
  · exact unparked settled other wait ((enter_other _ _ same).symm.trans parked)

theorem Unparked.act (unparked : Unparked system) (move : Move) : Unparked (act move system) := by
  rcases act_cases move system with same | woke
  · rwa [same]
  · rw [woke]
    intro _ thread wait
    exact wakened_unparked (system.phases thread) wait

theorem Unparked.next {thread : Nat} {choice : Choice} {after : System}
    (taken : next thread choice system = some after) (unparked : Unparked system) : Unparked after := by
  cases next_effect taken with
  | called | looked =>
      apply unparked.enter
      intro settled wait parked
      rw [look_settled settled] at parked
      cases parked
  | expired | stirred => exact unparked.enter thread nofun
  | acted move => exact unparked.act move

end Parking

/-- The latest call of the thread was for a wait with this timeout, and it has done nothing but wait since. -/
def Called (taken : List (Nat × Choice)) (thread : Nat) (timeout : Option Span) : Prop :=
  Latest next start taken (fun _ step => ∃ now, step = (thread, .wait now timeout))
    fun step => step.1 = thread → step.2.resumes = true

/-- The time of the thread was up when it woke, and it has taken no step since. -/
def Expired (taken : List (Nat × Choice)) (thread : Nat) : Prop :=
  Latest next start taken (fun _ step => step = (thread, .expire)) fun step => step.1 ≠ thread

/-- The thread comes back from a wait with this step. -/
def Returns (thread : Nat) (choice : Choice) (before after : System) (timeout : Option Span)
    (outcome : Except Fault State) : Prop :=
  next thread choice before = some after ∧ choice.isWaiting = true ∧
    after.phases thread = .returned timeout outcome

section Runs

variable {taken : List (Nat × Choice)} {system after : System} {thread : Nat} {choice : Choice}
  (ran : run next taken start = some system)
include ran

theorem called_of_wait {wait : Wait} (waiting : (system.phases thread).wait? = some wait) :
    Called taken thread wait.timeout := by
  apply latest_of_holds (fun system => (system.phases thread).wait? = some wait) ?_ ?_ ran waiting
  · intro waiting
    cases waiting
  · intro _ stepping choice before after _ moves waiting
    rcases (next_effect moves).wait_cases waiting with ⟨now, timeout, called, rfl⟩ | earlier
    · exact Or.inl ⟨now, called⟩
    · exact Or.inr earlier

theorem expired_of_woken {wait : Wait} (woken : system.phases thread = .woken wait true) :
    Expired taken thread := by
  apply latest_of_holds (fun system => system.phases thread = .woken wait true) ?_ ?_ ran woken
  · intro woken
    cases woken
  · intro _ stepping choice before after _ moves woken
    exact (next_effect moves).expired_cases woken

theorem answered_of_returns {timeout : Option Span} {outcome : Except Fault State}
    (returns : Returns thread choice system after timeout outcome) :
    Answered system.state timeout outcome (outcomeCode outcome) ∧
      Called (taken ++ [(thread, choice)]) thread timeout ∧
      ((∃ fault, outcome = .error fault) → Expired taken thread) := by
  obtain ⟨moves, waiting, returned⟩ := returns
  cases next_effect moves with
  | called now asked =>
      obtain ⟨rfl, answered, up⟩ := look_returned ((enter_self _ _ _).symm.trans returned)
      refine ⟨answered, Latest.now ran ⟨now, rfl⟩, ?_⟩
      intro failed
      cases up failed
  | expired | stirred => cases (enter_self _ _ _).symm.trans returned
  | looked woken =>
      obtain ⟨rfl, answered, up⟩ := look_returned ((enter_self _ _ _).symm.trans returned)
      have called := called_of_wait ran (congrArg Phase.wait? woken)
      refine ⟨answered, called.snoc fun _ => rfl, ?_⟩
      intro failed
      rw [up failed] at woken
      exact expired_of_woken ran woken
  | acted => cases waiting

/-- In every run: while the gate is settled, nobody is parked, and whoever has been woken comes back with the
state as soon as it looks. Waiting does not move the gate. A wait comes back with the settled state that it
finds, or it gives up with its own bound, at an unsettled gate and after its time was up; the codes of the
two settled states and of giving up are 2, 3 and 255. A wait that ends by itself can end so from here, if nobody
moves the gate meanwhile. -/
theorem waits_answered :
    (system.state.isSettled = true → ∀ thread wait, system.phases thread ≠ .parked wait) ∧
      (system.state.isSettled = true → ∀ thread wait expired,
        system.phases thread = .woken wait expired →
          ∃ after, Returns thread .look system after wait.timeout (.ok system.state)) ∧
      (∀ thread choice after, choice.isWaiting = true → next thread choice system = some after →
        after.state = system.state) ∧
      (∀ thread choice after timeout outcome, Returns thread choice system after timeout outcome →
        Answered system.state timeout outcome (outcomeCode outcome) ∧
          Called (taken ++ [(thread, choice)]) thread timeout ∧
          ((∃ fault, outcome = .error fault) → Expired taken thread)) ∧
      ∀ thread now timeout outcome, system.phases thread = .idle →
        Activation.await now timeout system.state = some outcome →
          ∃ later last, run next later system = some last ∧ last.state = system.state ∧
            last.phases thread = .returned timeout outcome := by
  refine ⟨?_, ?_, ?_, ?_, ?_⟩
  · exact run_keeps Unparked Unparked.next ran start_unparked
  · intro settled thread wait expired woken
    refine ⟨enter system thread (look wait expired system.state), ?_, rfl, ?_⟩
    · simp only [next, woken]
    · rw [enter_self, look_settled settled]
  · intro thread choice after waiting moves
    exact (next_effect moves).state_kept waiting
  · intro thread choice after timeout outcome returns
    exact answered_of_returns ran returns
  · intro thread now timeout outcome idle ends
    exact run_wait idle ends

end Runs

/-- The time of a wait is up, and the grant comes before the thread looks again. -/
theorem late_grant_answered :
    let bound := Span.ofMillis 5
    let taken : List (Nat × Choice) :=
      [(1, .act (.request true)), (0, .wait Span.zero (some bound)), (0, .expire), (1, .act .notice)]
    ∃ system after, run next taken start = some system ∧ system.state.isSettled = true ∧
      system.phases 0 = .woken (begun Span.zero (some bound)) true ∧
      Returns 0 .look system after (some bound) (.ok .enabled) ∧
      Answered system.state (some bound) (.ok .enabled) 2 ∧
      Called (taken ++ [(0, .look)]) 0 (some bound) := by
  intro bound taken
  refine ⟨_, _, rfl, rfl, rfl, ⟨rfl, rfl, rfl⟩, ?_⟩
  have ran : run next taken start = some _ := rfl
  obtain ⟨answered, called, _⟩ :=
    (waits_answered ran).2.2.2.1 0 .look _ (some bound) (.ok .enabled) ⟨rfl, rfl, rfl⟩
  exact ⟨answered, called⟩

end TwinView.Contention.Waiters
