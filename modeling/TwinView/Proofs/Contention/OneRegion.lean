import TwinView.Contention.Filling
import TwinView.Proofs.Contention.Latest
import TwinView.Proofs.Memory.Making

/-!
One slot that many threads fill. A region is made only under the lock, and only after the slot was found
empty under the same lock, so no other thread can have filled it when the region is put there. Whoever finds
the slot filled, with the lock or without, finds the one region that was ever made. An attempt that fails
leaves everything as it was, and the next holder of the lock may make the region.
-/

namespace TwinView.Contention.Filling

/-- Whether a thread in this phase has the lock. -/
def Phase.locks : Phase → Bool
  | .locked _ | .making _ | .holding _ _ | .leaving _ _ => true
  | .idle | .called _ | .queued _ | .returned _ _ => false

/-- The size that was asked for by the call that a thread is in, or has come back from. -/
def Phase.size? : Phase → Option UInt64
  | .idle => none
  | .called size | .queued size | .locked size | .making size | .holding size _ | .leaving size _
  | .returned size _ => some size

/-- What a call came to, with its size, once that is settled. -/
def Phase.outcome? : Phase → Option (UInt64 × Except Fault Unit)
  | .leaving size outcome | .returned size outcome => some (size, outcome)
  | .idle | .called _ | .queued _ | .locked _ | .making _ | .holding _ _ => none

/-- What a step of a thread does, and where the thread stands for it. -/
inductive Effect (thread : Nat) (before : System) : Choice → System → Prop where
  | called (size : UInt64) (rests : (before.phases thread).rests = true) :
      Effect thread before (.call size) (enter before thread (.called size))
  | passed {size : UInt64} (called : before.phases thread = .called size)
      (filled : before.slot.isFilled = true) :
      Effect thread before .proceed (enter before thread (.returned size (.ok ())))
  | queued {size : UInt64} (called : before.phases thread = .called size) :
      Effect thread before .proceed (enter before thread (.queued size))
  | locked {size : UInt64} (queued : before.phases thread = .queued size)
      (free : before.holder = none) :
      Effect thread before .proceed
        (enter { before with holder := some thread } thread (.locked size))
  | found {size : UInt64} (locked : before.phases thread = .locked size)
      (filled : before.slot.isFilled = true) :
      Effect thread before .proceed (enter before thread (.leaving size (.ok ())))
  | missed {size : UInt64} (locked : before.phases thread = .locked size)
      (empty : before.slot.isFilled = false) :
      Effect thread before .proceed (enter before thread (.making size))
  | made {size : UInt64} {answers : HostAnswers} {region : Region}
      (making : before.phases thread = .making size)
      (done : Region.ofAnswers answers size = .ok region) :
      Effect thread before (.make answers)
        (enter { before with made := (size, region) :: before.made } thread (.holding size region))
  | failed {size : UInt64} {answers : HostAnswers} {fault : Fault}
      (making : before.phases thread = .making size)
      (failed : Region.ofAnswers answers size = .error fault) :
      Effect thread before (.make answers) (enter before thread (.leaving size (.error fault)))
  | put {size : UInt64} {region : Region} (holding : before.phases thread = .holding size region) :
      Effect thread before .proceed (enter (put region before) thread (.leaving size (.ok ())))
  | left {size : UInt64} {outcome : Except Fault Unit}
      (leaving : before.phases thread = .leaving size outcome) :
      Effect thread before .proceed
        (enter { before with holder := none } thread (.returned size outcome))

theorem enter_self (system : System) (thread : Nat) (phase : Phase) :
    (enter system thread phase).phases thread = phase := moved_self _ _ _

theorem enter_other (system : System) {thread other : Nat} (phase : Phase)
    (different : other ≠ thread) :
    (enter system thread phase).phases other = system.phases other := moved_other _ _ different

theorem put_filled {system : System} (filled : system.slot.isFilled = true) (region : Region) :
    put region system = { system with discarded := region :: system.discarded } := if_pos filled

theorem put_empty {system : System} (empty : system.slot = .empty) (region : Region) :
    put region system = { system with slot := ⟨some region⟩ } := by
  have unfilled : ¬ system.slot.isFilled = true := by
    rw [empty]
    nofun
  exact if_neg unfilled

theorem put_phases (region : Region) (system : System) :
    (put region system).phases = system.phases := by
  unfold put
  split <;> rfl

theorem put_made (region : Region) (system : System) : (put region system).made = system.made := by
  unfold put
  split <;> rfl

section Steps

variable {thread stepping : Nat} {before after : System} {choice : Choice}

theorem proceed_effect (taken : proceed thread before = some after) :
    Effect thread before .proceed after := by
  unfold proceed at taken
  split at taken
  next size called =>
    cases taken
    split
    next filled => exact .passed called filled
    next => exact .queued called
  next size queued =>
    split at taken
    next free => cases taken; exact .locked queued free
    next => cases taken
  next size locked =>
    cases taken
    split
    next filled => exact .found locked filled
    next empty => exact .missed locked (Bool.not_eq_true _ ▸ empty)
  next size region holding => cases taken; exact .put holding
  next size outcome leaving => cases taken; exact .left leaving
  all_goals cases taken

theorem make_effect {size : UInt64} (making : before.phases thread = .making size)
    (answers : HostAnswers) :
    Effect thread before (.make answers) (make thread size answers before) := by
  unfold make
  split
  next region done => exact .made making done
  next fault failed => exact .failed making failed

theorem next_effect (taken : next thread choice before = some after) :
    Effect thread before choice after := by
  unfold next at taken
  split at taken
  next size idle =>
    cases taken
    exact .called size (by rw [idle]; rfl)
  next size _ _ returned =>
    cases taken
    exact .called size (by rw [returned]; rfl)
  next => exact proceed_effect taken
  next answers size making =>
    cases taken
    exact make_effect making answers
  next => cases taken

theorem Effect.phases_other (effect : Effect stepping before choice after)
    (different : thread ≠ stepping) : after.phases thread = before.phases thread := by
  cases effect with
  | put => rw [enter_other _ _ different, put_phases]
  | _ => exact enter_other _ _ different

/-- No step changes a slot that is filled. -/
theorem Effect.slot_kept (effect : Effect thread before choice after) {slot : Slot}
    (filled : slot.isFilled = true) (same : before.slot = slot) : after.slot = slot := by
  subst same
  cases effect with
  | put => rw [put_filled filled]; rfl
  | _ => rfl

/-- The size of a thread's call was asked for by this step, or before. -/
theorem Effect.size_cases (effect : Effect stepping before choice after) {size : UInt64}
    (asked : (after.phases thread).size? = some size) :
    (stepping, choice) = (thread, .call size) ∨
      (before.phases thread).size? = some size ∧
        (stepping = thread → ∀ other, choice ≠ .call other) := by
  by_cases same : stepping = thread
  · subst same
    cases effect with
    | called =>
        rw [enter_self] at asked
        cases asked
        exact Or.inl rfl
    | passed phase | queued phase | locked phase | found phase | missed phase | made phase
    | failed phase | put phase | left phase =>
        rw [enter_self] at asked
        exact Or.inr ⟨by rw [phase]; exact asked, fun _ => nofun⟩
  · rw [effect.phases_other (Ne.symm same)] at asked
    exact Or.inr ⟨asked, fun equal => absurd equal same⟩

/-- With this step a thread tries to make a region of this size, and this comes of it. -/
def Tries (size : UInt64) (outcome : Except Fault Region) (before : System) (step : Nat × Choice) :
    Prop :=
  ∃ answers, step.2 = .make answers ∧ before.phases step.1 = .making size ∧
    Region.ofAnswers answers size = outcome

/-- A call has failed because of this step, or had failed before. -/
theorem Effect.failed_cases (effect : Effect stepping before choice after) {size : UInt64}
    {fault : Fault} (failed : (after.phases thread).outcome? = some (size, .error fault)) :
    (stepping = thread ∧ Tries size (.error fault) before (stepping, choice)) ∨
      (before.phases thread).outcome? = some (size, .error fault) ∧
        (stepping = thread → choice = .proceed) := by
  by_cases same : stepping = thread
  · subst same
    cases effect with
    | called | passed | queued | locked | found | missed | made | put =>
        rw [enter_self] at failed
        cases failed
    | failed making refused =>
        rw [enter_self] at failed
        cases failed
        exact Or.inl ⟨rfl, _, rfl, making, refused⟩
    | left leaving =>
        rw [enter_self] at failed
        exact Or.inr ⟨by rw [leaving]; exact failed, fun _ => rfl⟩
  · rw [effect.phases_other (Ne.symm same)] at failed
    exact Or.inr ⟨failed, fun equal => absurd equal same⟩

/-- A region was made by this step, or before. -/
theorem Effect.made_cases (effect : Effect thread before choice after) {size : UInt64}
    {region : Region} (member : (size, region) ∈ after.made) :
    Tries size (.ok region) before (thread, choice) ∨ (size, region) ∈ before.made := by
  cases effect with
  | made making done =>
      rcases List.mem_cons.mp member with same | earlier
      · cases same
        exact Or.inl ⟨_, rfl, making, done⟩
      · exact Or.inr earlier
  | put => exact Or.inr (put_made _ before ▸ member)
  | _ => exact Or.inr member

end Steps

/-- The slot has the one region that was made, or there has been none. -/
def Settled (slot : Slot) (made : List (UInt64 × Region)) : Prop :=
  made = (slot.region.map fun region => (region.size, region)).toList

theorem settled_empty : Settled .empty [] := rfl

theorem Settled.made_of_empty {slot : Slot} {made : List (UInt64 × Region)}
    (settled : Settled slot made) (empty : slot.isFilled = false) : slot = .empty ∧ made = [] := by
  obtain ⟨_ | region⟩ := slot
  · exact ⟨rfl, settled⟩
  · cases empty

/-- What the slot and the regions that were made come to where a thread stands in this phase. -/
def Phase.Agrees (slot : Slot) (made : List (UInt64 × Region)) : Phase → Prop
  | .locked _ => Settled slot made
  | .making _ | .leaving _ (.error _) => slot = .empty ∧ made = []
  | .holding size region => slot = .empty ∧ made = [(size, region)] ∧ region.size = size
  | .leaving _ (.ok _) => slot.isFilled = true ∧ Settled slot made
  | .returned _ (.ok _) => slot.isFilled = true
  | .idle | .called _ | .queued _ | .returned _ (.error _) => True

/-- Where a thread has the lock, there has been no region but the one in the slot, or the thread has one and
the slot is empty. -/
theorem Phase.Agrees.regions {phase : Phase} {slot : Slot} {made : List (UInt64 × Region)}
    (agrees : phase.Agrees slot made) (locks : phase.locks = true) :
    Settled slot made ∨ slot = .empty ∧ ∃ size region, made = [(size, region)] := by
  cases phase with
  | idle | called | queued | returned => cases locks
  | locked => exact Or.inl agrees
  | making =>
      obtain ⟨rfl, rfl⟩ := agrees
      exact Or.inl settled_empty
  | holding size region => exact Or.inr ⟨agrees.1, size, region, agrees.2.1⟩
  | leaving size outcome =>
      cases outcome with
      | ok => exact Or.inl agrees.2
      | error =>
          obtain ⟨rfl, rfl⟩ := agrees
          exact Or.inl settled_empty

theorem Phase.Agrees.mono {phase : Phase} {slot later : Slot} {made : List (UInt64 × Region)}
    (agrees : phase.Agrees slot made) (outside : phase.locks = false)
    (grows : slot.isFilled = true → later.isFilled = true) (madeLater : List (UInt64 × Region)) :
    phase.Agrees later madeLater := by
  -- All that a thread without the lock relies on is that the slot, once it was filled, is filled.
  cases phase with
  | idle | called | queued => trivial
  | locked | making | holding | leaving => cases outside
  | returned size outcome =>
      cases outcome with
      | error => trivial
      | ok => exact grows agrees

/-- At most one thread has the lock, and what each thread relies on is so. -/
structure Sound (system : System) : Prop where
  exclusive : ∀ thread, (system.phases thread).locks = true ↔ system.holder = some thread
  agrees : ∀ thread, (system.phases thread).Agrees system.slot system.made
  settled : system.holder = none → Settled system.slot system.made
  discarded : system.discarded = []

theorem start_sound : Sound start where
  exclusive _ := ⟨nofun, nofun⟩
  agrees _ := trivial
  settled _ := settled_empty
  discarded := rfl

namespace Sound

variable {system : System} {thread : Nat} {phase : Phase}

/-- What the thread relies on, where it stands. -/
theorem at_phase (sound : Sound system) (standing : system.phases thread = phase) :
    phase.Agrees system.slot system.made :=
  standing ▸ sound.agrees thread

theorem regions (sound : Sound system) :
    Settled system.slot system.made ∨
      system.slot = .empty ∧ ∃ size region, system.made = [(size, region)] := by
  cases holds : system.holder with
  | none => exact Or.inl (sound.settled holds)
  | some thread => exact (sound.agrees thread).regions ((sound.exclusive thread).mpr holds)

theorem made_of_present (sound : Sound system) {region : Region}
    (present : system.slot.region = some region) : system.made = [(region.size, region)] := by
  rcases sound.regions with settled | ⟨empty, _⟩
  · rw [settled, present]
    rfl
  · rw [empty] at present
    contradiction

theorem made_at_most_once (sound : Sound system) : system.made.length ≤ 1 := by
  rcases sound.regions with settled | ⟨_, size, region, made⟩
  · rw [settled]
    exact Option.length_toList_le
  · rw [made]
    exact Nat.le_refl 1

theorem filled_of_success (sound : Sound system) {size : UInt64}
    (done : (system.phases thread).outcome? = some (size, .ok ())) :
    system.slot.isFilled = true := by
  have agrees := sound.agrees thread
  cases phase : system.phases thread with
  | leaving =>
      rw [phase] at done agrees
      cases done
      exact agrees.1
  | returned =>
      rw [phase] at done agrees
      cases done
      exact agrees
  | _ =>
      rw [phase] at done
      cases done

theorem others_outside (sound : Sound system) (holds : system.holder = some thread) {other : Nat}
    (different : other ≠ thread) : (system.phases other).locks = false := by
  cases locks : (system.phases other).locks with
  | false => rfl
  | true =>
      have same := (sound.exclusive other).mp locks
      rw [holds] at same
      exact absurd (Option.some.inj same).symm different

/-- A thread moves on, and with it the slot, the holder of the lock and the regions that were made. -/
theorem advance (sound : Sound system) {slot : Slot} {holder : Option Nat}
    {made : List (UInt64 × Region)} (own : phase.locks = true ↔ holder = some thread)
    (rest : ∀ other ≠ thread, holder = some other ↔ system.holder = some other)
    (agrees : phase.Agrees slot made)
    (others : ∀ other ≠ thread, (system.phases other).Agrees slot made)
    (settled : holder = none → Settled slot made) :
    Sound (enter ⟨slot, holder, system.phases, made, system.discarded⟩ thread phase) where
  exclusive := by
    intro other
    by_cases same : other = thread
    · subst same
      rw [enter_self]
      exact own
    · rw [enter_other _ _ same]
      exact (sound.exclusive other).trans (rest other same).symm
  agrees := by
    intro other
    by_cases same : other = thread
    · subst same
      rwa [enter_self]
    · rw [enter_other _ _ same]
      exact others other same
  settled := settled
  discarded := sound.discarded

/-- A step without the lock leaves the slot. -/
theorem outside (sound : Sound system) (before : (system.phases thread).locks = false)
    (after : phase.locks = false) (agrees : phase.Agrees system.slot system.made) :
    Sound (enter system thread phase) := by
  apply sound.advance
  · rw [← sound.exclusive thread, before, after]
  · exact fun _ _ => Iff.rfl
  · exact agrees
  · exact fun other _ => sound.agrees other
  · exact sound.settled

/-- Whoever takes the lock finds the slot settled. -/
theorem take (sound : Sound system) (free : system.holder = none) (size : UInt64) :
    Sound (enter { system with holder := some thread } thread (.locked size)) := by
  apply sound.advance
  · exact ⟨fun _ => rfl, fun _ => rfl⟩
  · intro other different
    rw [free]
    exact ⟨fun same => absurd (Option.some.inj same).symm different, nofun⟩
  · exact sound.settled free
  · exact fun other _ => sound.agrees other
  · nofun

/-- A step with the lock may change everything but the lock, as long as a filled slot stays filled: nobody
else relies on more. -/
theorem inside (sound : Sound system) (before : (system.phases thread).locks = true)
    (after : phase.locks = true) {slot : Slot} {made : List (UInt64 × Region)}
    (grows : system.slot.isFilled = true → slot.isFilled = true) (agrees : phase.Agrees slot made) :
    Sound (enter { system with slot := slot, made := made } thread phase) := by
  have holds := (sound.exclusive thread).mp before
  apply sound.advance
  · exact ⟨fun _ => holds, fun _ => after⟩
  · exact fun _ _ => Iff.rfl
  · exact agrees
  · intro other different
    exact (sound.agrees other).mono (sound.others_outside holds different) grows made
  · rw [holds]
    nofun

/-- Whoever gives the lock back leaves the slot settled. -/
theorem release (sound : Sound system) {size : UInt64} {outcome : Except Fault Unit}
    (leaving : system.phases thread = .leaving size outcome) :
    Sound (enter { system with holder := none } thread (.returned size outcome)) := by
  have agrees := sound.at_phase leaving
  have holds := (sound.exclusive thread).mp (by rw [leaving]; rfl)
  apply sound.advance
  · exact ⟨nofun, nofun⟩
  · intro other different
    rw [holds]
    exact ⟨nofun, fun same => absurd (Option.some.inj same).symm different⟩
  · cases outcome with
    | ok => exact agrees.1
    | error => trivial
  · exact fun other _ => sound.agrees other
  · intro _
    cases outcome with
    | ok => exact agrees.2
    | error =>
        obtain ⟨empty, none⟩ := agrees
        rw [empty, none]
        exact settled_empty

theorem next {choice : Choice} {after : System} (taken : next thread choice system = some after)
    (sound : Sound system) : Sound after := by
  cases next_effect taken with
  | called size rests =>
      refine sound.outside ?_ rfl trivial
      cases phase : system.phases thread with
      | idle | returned => rfl
      | _ => rw [phase] at rests; cases rests
  | passed called filled => exact sound.outside (by rw [called]; rfl) rfl filled
  | queued called => exact sound.outside (by rw [called]; rfl) rfl trivial
  | locked _ free => exact sound.take free _
  | found locked filled =>
      exact sound.inside (by rw [locked]; rfl) rfl id ⟨filled, sound.at_phase locked⟩
  | missed locked empty =>
      have settled : Settled system.slot system.made := sound.at_phase locked
      exact sound.inside (by rw [locked]; rfl) rfl id (settled.made_of_empty empty)
  | made making done =>
      obtain ⟨empty, none⟩ := sound.at_phase making
      apply sound.inside (by rw [making]; rfl) rfl id
      exact ⟨empty, by rw [none], (Region.ofAnswers_made done).size_eq⟩
  | failed making =>
      have nothing : system.slot = .empty ∧ system.made = [] := sound.at_phase making
      exact sound.inside (by rw [making]; rfl) rfl id nothing
  | @put size region holding =>
      -- Nobody can have filled the slot since this thread found it empty: the lock was its own.
      obtain ⟨empty, made, rfl⟩ := sound.at_phase holding
      rw [put_empty empty]
      exact sound.inside (by rw [holding]; rfl) rfl (fun _ => rfl) ⟨rfl, made⟩
  | left leaving => exact sound.release leaving

end Sound

/-- The latest call of the thread was for this size. -/
def Asked (taken : List (Nat × Choice)) (thread : Nat) (size : UInt64) : Prop :=
  Latest next start taken (fun _ step => step = (thread, .call size))
    fun step => step.1 = thread → ∀ other, step.2 ≠ .call other

/-- In the run the thread has tried to make a region of the size that its call asked for, while the slot was
empty and no region had been made. This came of it, and these are the steps since then. -/
def Tried (taken : List (Nat × Choice)) (thread : Nat) (size : UInt64) (outcome : Except Fault Region)
    (since : List (Nat × Choice)) : Prop :=
  ∃ earlier answers before, taken = earlier ++ (thread, .make answers) :: since ∧
    run next earlier start = some before ∧ Asked earlier thread size ∧
    before.phases thread = .making size ∧ before.slot = .empty ∧ before.made = [] ∧
    Region.ofAnswers answers size = outcome

section Runs

variable {taken : List (Nat × Choice)} {system : System} {thread : Nat} {size : UInt64}

theorem run_sound (ran : run next taken start = some system) : Sound system :=
  run_keeps Sound Sound.next ran start_sound

/-- Once the slot is filled, it has the same region from then on. -/
theorem run_slot_kept {last : System} (ran : run next taken system = some last)
    (filled : system.slot.isFilled = true) : last.slot = system.slot := by
  apply run_keeps (fun later => later.slot = system.slot) ?_ ran rfl
  intro _ _ _ _ moves
  exact (next_effect moves).slot_kept filled

/-- While the slot is empty and the lock is free, any thread that is in no call can fill the slot, if the host
lets it make a region. -/
theorem can_fill {answers : HostAnswers} {region : Region} (empty : system.slot = .empty)
    (free : system.holder = none) (rests : (system.phases thread).rests = true)
    (granted : Region.ofAnswers answers size = .ok region) :
    ∃ schedule last, run next schedule system = some last ∧ last.slot.region = some region ∧
      last.phases thread = .returned size (.ok ()) := by
  obtain ⟨schedule, last, ran, slot, outcome⟩ := run_whole answers size rests free
  have fills : whole answers size system.slot = (.ok (), ⟨some region⟩) := by
    simp [whole, Slot.fill, EStateM.run, empty, Slot.empty, Slot.isFilled, granted]
  rw [fills] at slot outcome
  exact ⟨schedule, last, ran, by rw [slot], outcome⟩

variable (ran : run next taken start = some system)
include ran

theorem asked_of_size (asked : (system.phases thread).size? = some size) :
    Asked taken thread size := by
  apply latest_of_holds (fun system => (system.phases thread).size? = some size) ?_ ?_ ran asked
  · intro asked
    cases asked
  · intro _ _ _ _ _ _ moves asked
    exact (next_effect moves).size_cases asked

theorem tried_of_tries {step : Nat × Choice} {outcome : Except Fault Region}
    (tries : Tries size outcome system step) (since : List (Nat × Choice)) :
    Tried (taken ++ step :: since) step.1 size outcome since := by
  obtain ⟨stepping, choice⟩ := step
  obtain ⟨answers, rfl, making, outcome⟩ := tries
  obtain ⟨empty, none⟩ := (run_sound ran).at_phase making
  have asked : Asked taken stepping size := asked_of_size ran (by rw [making]; rfl)
  exact ⟨taken, answers, system, rfl, ran, asked, making, empty, none, outcome⟩

theorem tried_of_made {region : Region} (member : (size, region) ∈ system.made) :
    ∃ thread since, Tried taken thread size (.ok region) since := by
  have latest : Latest next start taken (Tries size (.ok region)) fun _ => True := by
    apply latest_of_holds (fun system => (size, region) ∈ system.made) ?_ ?_ ran member
    · intro member
      cases member
    · intro _ _ _ _ _ _ moves member
      exact ((next_effect moves).made_cases member).imp_right fun earlier => ⟨earlier, trivial⟩
  obtain ⟨earlier, step, since, before, rfl, reaching, tries, _⟩ := latest
  exact ⟨step.1, since, tried_of_tries reaching tries since⟩

theorem tried_of_failed {fault : Fault}
    (failed : (system.phases thread).outcome? = some (size, .error fault)) :
    ∃ since, Tried taken thread size (.error fault) since ∧
      ∀ choice, (thread, choice) ∈ since → choice = .proceed := by
  have latest : Latest next start taken
      (fun before step => step.1 = thread ∧ Tries size (.error fault) before step)
      fun step => step.1 = thread → step.2 = .proceed := by
    apply latest_of_holds
      (fun system => (system.phases thread).outcome? = some (size, .error fault)) ?_ ?_ ran failed
    · intro failed
      cases failed
    · intro _ _ _ _ _ _ moves failed
      exact (next_effect moves).failed_cases failed
  obtain ⟨earlier, step, since, before, rfl, reaching, ⟨rfl, tries⟩, spared⟩ := latest
  refine ⟨since, tried_of_tries reaching tries since, ?_⟩
  intro choice member
  exact spared _ member rfl

/-- In every run at most one region is made, none is discarded, and the slot is empty when a region is put
into it. The region in the slot is the one that was made, of the size that the call of its maker asked for,
and it stays. A call succeeds only with a region in the slot. It fails only if it has tried to make a region
itself, while there was none. When it fails, the slot is empty, and after it has given back the lock, any
thread that is in no call can fill the slot. -/
theorem filled_once :
    system.made.length ≤ 1 ∧ system.discarded = [] ∧
      (∀ thread size region, system.phases thread = .holding size region → system.slot = .empty) ∧
      (∀ region, system.slot.region = some region →
        system.made = [(region.size, region)] ∧
          (∃ maker since, Tried taken maker region.size (.ok region) since) ∧
          ∀ later last, run next later system = some last → last.slot.region = some region) ∧
      (∀ thread size, (system.phases thread).outcome? = some (size, .ok ()) →
        ∃ region, system.slot.region = some region) ∧
      (∀ thread size fault, (system.phases thread).outcome? = some (size, .error fault) →
        ∃ since, Tried taken thread size (.error fault) since ∧
          ∀ choice, (thread, choice) ∈ since → choice = .proceed) ∧
      ∀ thread size fault, system.phases thread = .leaving size (.error fault) →
        system.slot = .empty ∧
          ∃ after, next thread .proceed system = some after ∧
            after.phases thread = .returned size (.error fault) ∧ after.slot = .empty ∧
            ∀ other asked answers region, (after.phases other).rests = true →
              Region.ofAnswers answers asked = .ok region →
                ∃ schedule last, run next schedule after = some last ∧
                  last.slot.region = some region ∧ last.phases other = .returned asked (.ok ()) := by
  have sound := run_sound ran
  refine ⟨?_, sound.discarded, ?_, ?_, ?_, ?_, ?_⟩
  · exact sound.made_at_most_once
  · intro thread size region holding
    have agrees : system.slot = .empty ∧ _ := sound.at_phase holding
    exact agrees.1
  · intro region present
    have made := sound.made_of_present present
    refine ⟨made, ?_, ?_⟩
    · exact tried_of_made ran (by rw [made]; exact List.mem_singleton_self _)
    · intro later last ran
      rw [run_slot_kept ran (by rw [Slot.isFilled, present]; rfl), present]
  · intro thread size done
    exact Option.isSome_iff_exists.mp (sound.filled_of_success done)
  · intro thread size fault failed
    exact tried_of_failed ran failed
  · intro thread size fault leaving
    have nothing : system.slot = .empty ∧ system.made = [] := sound.at_phase leaving
    refine ⟨nothing.1, enter { system with holder := none } thread (.returned size (.error fault)), ?_⟩
    refine ⟨?_, enter_self _ _ _, nothing.1, ?_⟩
    · simp only [next, proceed, leaving]
    · intro other asked answers region rests granted
      exact can_fill nothing.1 rfl rests granted

end Runs

/-- Three threads: the first is refused while the second waits, the second makes the region, and the third
comes when it is there. -/
theorem filled_after_refusal :
    let refusing : HostAnswers := ⟨.error 24, .ok (), .ok 0, .ok 0⟩
    let granting : HostAnswers := ⟨.ok 3, .ok (), .ok 0x10000, .ok 0x20000⟩
    let taken : List (Nat × Choice) :=
      [(0, .call 4096), (1, .call 8192), (0, .proceed), (1, .proceed), (0, .proceed), (0, .proceed),
        (0, .make refusing), (0, .proceed), (1, .proceed), (1, .proceed), (1, .make granting),
        (1, .proceed), (1, .proceed), (2, .call 0), (2, .proceed)]
    let region : Region := ⟨⟨0x10000, 0x20000, 8192⟩, 3, Bytes.zeros⟩
    ∃ system, run next taken start = some system ∧ system.slot.region = some region ∧
      system.made = [(8192, region)] ∧
      (∃ maker since, Tried taken maker 8192 (.ok region) since) ∧
      (system.phases 2).outcome? = some (0, .ok ()) ∧
      ∃ since, Tried taken 0 4096 (.error (.hostExhausted "memfd_create" 24)) since := by
  intro refusing granting taken region
  obtain ⟨_, _, _, present, _, failed, _⟩ := filled_once (rfl : run next taken start = some _)
  obtain ⟨made, maker, _⟩ := present region rfl
  obtain ⟨since, tried, _⟩ := failed 0 4096 (.hostExhausted "memfd_create" 24) rfl
  exact ⟨_, rfl, rfl, made, maker, rfl, since, tried⟩

end TwinView.Contention.Filling
