import TwinView.Proofs.Contention.Sequence

/-!
Calls that race for one cursor come out as if they had been made one after the other. A grant takes effect
with the swap that wins. A call that gives up has seen nothing wrong either: it takes effect at the moment at
which it read the cursor, which may lie in front of grants that have been answered since. It lies behind all
calls that were answered before this one was made, so the order never goes against time.
-/

namespace TwinView.Contention.Reservation

/-- A finished call with the steps at which it was made and answered, counted from the start. -/
structure Timed where
  call : Finished
  made : Nat
  answered : Nat

/-- A system with the time, the moment at which each thread made its latest call, and the finished calls, the
latest first. -/
structure Timeline where
  system : System
  clock : Nat
  made : Nat → Nat
  record : List Timed

namespace Timeline

def start (cursor : Cursor) : Timeline := ⟨Reservation.start cursor, 0, fun _ => 0, []⟩

def madeAfter (line : Timeline) (thread : Nat) : Choice → Nat → Nat
  | .call _ => moved line.made thread line.clock
  | .proceed | .fail => line.made

def after (line : Timeline) (thread : Nat) (choice : Choice) (system : System) : Timeline :=
  let made := line.madeAfter thread choice
  let answered := system.finished.take (system.finished.length - line.system.finished.length)
  ⟨system, line.clock + 1, made, answered.map (⟨·, made thread, line.clock⟩) ++ line.record⟩

def next (region : Region) : Steps Choice Timeline := fun thread choice line =>
  (Reservation.next region thread choice line.system).map (line.after thread choice)

/-- Keeping the time does not interfere with the run. -/
theorem run_system (region : Region) (schedule : List (Nat × Choice)) (line : Timeline) :
    (run (next region) schedule line).map Timeline.system =
      run (Reservation.next region) schedule line.system := by
  induction schedule generalizing line with
  | nil => rfl
  | cons step rest ih =>
      obtain ⟨thread, choice⟩ := step
      cases moves : Reservation.next region thread choice line.system with
      | none => simp [run, next, moves]
      | some system =>
          simp only [run, next, moves, Option.map_some, Option.bind_some]
          exact ih (line.after thread choice system)

variable {line : Timeline} {thread : Nat} {choice : Choice}

theorem madeAfter_other {other : Nat} (different : other ≠ thread) :
    line.madeAfter thread choice other = line.made other := by
  cases choice with
  | call request => exact moved_other _ _ different
  | proceed | fail => rfl

theorem madeAfter_le (past : ∀ other, line.made other ≤ line.clock) (other : Nat) :
    line.madeAfter thread choice other ≤ line.clock := by
  cases choice with
  | call request =>
      by_cases same : other = thread
      · simp [madeAfter, moved, same]
      · simpa [madeAfter, moved, same] using past other
  | proceed | fail => exact past other

theorem record_enter (phase : Phase) :
    (line.after thread choice (enter line.system thread phase)).record = line.record := by
  simp [after, enter]

theorem record_finish (cursor : Cursor) (request : Request) (outcome : Except Fault UInt64) :
    (line.after thread choice
      (finish { line.system with cursor := cursor } thread request outcome)).record =
        ⟨⟨request, outcome⟩, line.madeAfter thread choice thread, line.clock⟩ :: line.record := by
  simp [after, finish]

end Timeline

/-- What a step of a call may come to. -/
inductive Effect (region : Region) (thread : Nat) (system : System) : Choice → System → Prop where
  | refused {request : Request} {fault : Fault} :
      Cursor.checkRequest request.len request.align = .error fault →
        Effect region thread system (.call request) (finish system thread request (.error fault))
  | called {request : Request} :
      Cursor.checkRequest request.len request.align = .ok () →
        Effect region thread system (.call request) (enter system thread (.called request))
  | read {request : Request} :
      system.phases thread = .called request →
        Effect region thread system .proceed
          (enter system thread (.loaded request system.cursor.used 0))
  | proposed {request : Request} {seen start : UInt64} {grant : Grant} :
      system.phases thread = .loaded request seen start →
        Cursor.next region.size request.len request.align seen = some grant →
          Effect region thread system .proceed
            (enter system thread (.proposed request seen grant.start grant.finish))
  | exhausted {request : Request} {seen start : UInt64} :
      system.phases thread = .loaded request seen start →
        Cursor.next region.size request.len request.align seen = none →
          Effect region thread system .proceed (finish system thread request
            (.error (.regionFull request.len (Cursor.left region.size ⟨seen⟩))))
  | retried {choice : Choice} {request : Request} {seen start finish' : UInt64} :
      system.phases thread = .proposed request seen start finish' →
        choice = .proceed ∨ choice = .fail →
          Effect region thread system choice
            (enter system thread (.loaded request system.cursor.used start))
  | granted {request : Request} {start finish' : UInt64} :
      system.phases thread = .proposed request system.cursor.used start finish' →
        Effect region thread system .proceed
          (finish { system with cursor := ⟨finish'⟩ } thread request
            (.ok (region.base .executable + start)))

theorem proceed_effect {region : Region} {thread : Nat} {system after : System}
    (moves : proceed region thread system = some after) :
    Effect region thread system .proceed after := by
  unfold proceed at moves
  split at moves
  · cases moves
  · rename_i phase
    cases moves
    exact Effect.read phase
  · rename_i phase
    split at moves <;> rename_i follows <;> cases moves
    · exact Effect.proposed phase follows
    · exact Effect.exhausted phase follows
  · rename_i phase
    split at moves <;> rename_i kept <;> cases moves
    · rw [← kept] at phase
      exact Effect.granted phase
    · exact Effect.retried phase (Or.inl rfl)

theorem next_effect {region : Region} {thread : Nat} {choice : Choice} {system after : System}
    (moves : next region thread choice system = some after) :
    Effect region thread system choice after := by
  unfold next at moves
  split at moves
  · split at moves <;> rename_i checked <;> cases moves
    · exact Effect.refused checked
    · exact Effect.called checked
  · cases moves
  · exact proceed_effect moves
  · rename_i phase
    cases moves
    exact Effect.retried phase (Or.inr rfl)
  · cases moves

section Order

variable {region : Region} {origin middle : Cursor} {order front back : List Timed}
variable {timed : Timed} {since : Nat} {seen : UInt64}

/-- There was a moment with this cursor, and no call was answered before the given time that took effect after
that moment. -/
def Anchored (region : Region) (origin : Cursor) (order : List Timed) (since : Nat)
    (seen : UInt64) : Prop :=
  ∃ earlier later, order = earlier ++ later ∧ Ran region origin (earlier.map Timed.call) ⟨seen⟩ ∧
    ∀ call ∈ later, since ≤ call.answered

theorem Anchored.now {cursor : Cursor} (ran : Ran region origin (order.map Timed.call) cursor)
    (since : Nat) : Anchored region origin order since cursor.used :=
  ⟨order, [], (List.append_nil order).symm, ran, by simp⟩

theorem Anchored.snoc (anchored : Anchored region origin order since seen)
    (late : since ≤ timed.answered) : Anchored region origin (order ++ [timed]) since seen := by
  obtain ⟨earlier, later, rfl, ran, unanswered⟩ := anchored
  refine ⟨earlier, later ++ [timed], by simp, ran, ?_⟩
  intro call member
  rcases List.mem_append.mp member with old | new
  · exact unanswered call old
  · rw [List.mem_singleton.mp new]
    exact late

/-- A call that leaves the cursor may take effect anywhere, and every moment that was there before is still
there. -/
theorem Anchored.insert (anchored : Anchored region origin (front ++ back) since seen)
    (ran : Ran region origin (front.map Timed.call) middle)
    (still : whole region timed.call.request middle = (timed.call.outcome, middle))
    (late : since ≤ timed.answered) :
    Anchored region origin (front ++ timed :: back) since seen := by
  obtain ⟨earlier, later, same, moment, unanswered⟩ := anchored
  rcases List.append_eq_append_iff.mp same with ⟨between, rfl, rfl⟩ | ⟨between, rfl, rfl⟩
  · -- The moment lies behind the place of the new call.
    rw [List.map_append] at moment
    obtain ⟨middle', first, second⟩ := moment.split
    obtain rfl := ran.same_end first
    refine ⟨front ++ timed :: between, later, by simp, ?_, unanswered⟩
    rw [List.map_append, List.map_cons]
    exact first.append (Ran.call still second)
  · refine ⟨earlier, between ++ timed :: back, by simp, moment, ?_⟩
    intro call member
    rcases List.mem_append.mp member with old | member
    · exact unanswered call (List.mem_append_left _ old)
    · rcases List.mem_cons.mp member with rfl | old
      · exact late
      · exact unanswered call (List.mem_append_right _ old)

/-- Where a thread may stand: its request is a valid one, what it has seen was once the cursor, and what it
proposes is the range that follows. -/
inductive Standing (region : Region) (origin : Cursor) (order : List Timed) (since : Nat) :
    Phase → Prop where
  | idle : Standing region origin order since .idle
  | called {request : Request} :
      Cursor.checkRequest request.len request.align = .ok () →
        Standing region origin order since (.called request)
  | loaded {request : Request} {seen start : UInt64} :
      Cursor.checkRequest request.len request.align = .ok () →
        Anchored region origin order since seen →
          Standing region origin order since (.loaded request seen start)
  | proposed {request : Request} {seen start finish : UInt64} :
      Cursor.checkRequest request.len request.align = .ok () →
        Anchored region origin order since seen →
          Cursor.next region.size request.len request.align seen = some ⟨start, finish⟩ →
            Standing region origin order since (.proposed request seen start finish)

theorem Standing.carried {further : List Timed} {phase : Phase}
    (stands : Standing region origin order since phase)
    (moments : ∀ seen, Anchored region origin order since seen →
      Anchored region origin further since seen) :
    Standing region origin further since phase := by
  cases stands with
  | idle => exact Standing.idle
  | called valid => exact Standing.called valid
  | loaded valid anchored => exact Standing.loaded valid (moments _ anchored)
  | proposed valid anchored follows => exact Standing.proposed valid (moments _ anchored) follows

/-- The finished calls in the order in which they took effect. -/
structure Ordered (region : Region) (origin : Cursor) (line : Timeline) (order : List Timed) :
    Prop where
  complete : order.Perm line.record
  recorded : line.record.map Timed.call = line.system.finished
  ran : Ran region origin (order.map Timed.call) line.system.cursor
  timely : order.Pairwise fun earlier later => earlier.made ≤ later.answered
  past : ∀ timed ∈ order, timed.made ≤ line.clock
  made_le : ∀ thread, line.made thread ≤ line.clock
  standing : ∀ thread,
    Standing region origin order (line.made thread) (line.system.phases thread)

variable {line : Timeline} {thread : Nat} {choice : Choice}

theorem start_ordered (region : Region) (origin : Cursor) :
    Ordered region origin (Timeline.start origin) [] where
  complete := List.Perm.refl []
  recorded := rfl
  ran := Ran.none origin
  timely := List.Pairwise.nil
  past := by simp
  made_le _ := Nat.le_refl 0
  standing _ := Standing.idle

/-- A step that finishes no call leaves the order. -/
theorem Ordered.entered {phase : Phase} (ordered : Ordered region origin line order)
    (stands : Standing region origin order (line.madeAfter thread choice thread) phase) :
    Ordered region origin (line.after thread choice (enter line.system thread phase)) order where
  complete := by
    rw [Timeline.record_enter]
    exact ordered.complete
  recorded := by
    rw [Timeline.record_enter]
    exact ordered.recorded
  ran := ordered.ran
  timely := ordered.timely
  past timed member := Nat.le_succ_of_le (ordered.past timed member)
  made_le other := Nat.le_succ_of_le (Timeline.madeAfter_le ordered.made_le other)
  standing other := by
    by_cases same : other = thread
    · subst same
      simpa [Timeline.after, enter, moved_self] using stands
    · simpa [Timeline.after, enter, moved_other _ _ same, Timeline.madeAfter_other same]
        using ordered.standing other

/-- A step that finishes a call finds a place for it in the order. -/
theorem Ordered.finished {cursor : Cursor} {request : Request} {outcome : Except Fault UInt64}
    (ordered : Ordered region origin line (front ++ back))
    (is : timed = ⟨⟨request, outcome⟩, line.madeAfter thread choice thread, line.clock⟩)
    (ran : Ran region origin ((front ++ timed :: back).map Timed.call) cursor)
    (late : ∀ later ∈ back, timed.made ≤ later.answered)
    (moments : ∀ since seen, since ≤ timed.answered →
      Anchored region origin (front ++ back) since seen →
        Anchored region origin (front ++ timed :: back) since seen) :
    Ordered region origin
      (line.after thread choice
        (finish { line.system with cursor := cursor } thread request outcome))
      (front ++ timed :: back) where
  complete := by
    rw [Timeline.record_finish, ← is]
    exact List.perm_middle.trans (ordered.complete.cons timed)
  recorded := by
    rw [Timeline.record_finish, List.map_cons, ordered.recorded]
    rfl
  ran := ran
  timely := by
    obtain ⟨inFront, inBack, across⟩ := List.pairwise_append.mp ordered.timely
    refine List.pairwise_append.mpr ⟨inFront, List.pairwise_cons.mpr ⟨late, inBack⟩, ?_⟩
    intro earlier before later member
    rcases List.mem_cons.mp member with rfl | after
    · rw [is]
      exact ordered.past earlier (List.mem_append_left _ before)
    · exact across earlier before later after
  past call member := by
    rcases List.mem_append.mp member with before | member
    · exact Nat.le_succ_of_le (ordered.past call (List.mem_append_left _ before))
    · rcases List.mem_cons.mp member with rfl | after
      · rw [is]
        exact Nat.le_succ_of_le (Timeline.madeAfter_le ordered.made_le thread)
      · exact Nat.le_succ_of_le (ordered.past call (List.mem_append_right _ after))
  made_le other := Nat.le_succ_of_le (Timeline.madeAfter_le ordered.made_le other)
  standing other := by
    by_cases same : other = thread
    · subst same
      simpa [Timeline.after, finish, moved_self] using Standing.idle
    · have kept := (ordered.standing other).carried fun seen =>
        moments (line.made other) seen (by rw [is]; exact ordered.made_le other)
      simpa [Timeline.after, finish, moved_other _ _ same, Timeline.madeAfter_other same] using kept

theorem Ordered.appended {cursor : Cursor} {request : Request} {outcome : Except Fault UInt64}
    (ordered : Ordered region origin line order)
    (done : whole region request line.system.cursor = (outcome, cursor)) :
    ∃ further, Ordered region origin
      (line.after thread choice
        (finish { line.system with cursor := cursor } thread request outcome)) further := by
  rw [← List.append_nil order] at ordered
  refine ⟨_, ordered.finished rfl ?_ (by simp) ?_⟩
  · rw [List.map_append]
    rw [List.append_nil] at ordered
    exact ordered.ran.snoc done
  · intro since seen late anchored
    rw [List.append_nil] at anchored
    exact anchored.snoc late

/-- A call that gives up goes where the cursor was what it has seen. -/
theorem Ordered.inserted {request : Request} {outcome : Except Fault UInt64}
    (ordered : Ordered region origin line order)
    (anchored : Anchored region origin order (line.madeAfter thread choice thread) seen)
    (done : whole region request ⟨seen⟩ = (outcome, ⟨seen⟩)) :
    ∃ further, Ordered region origin
      (line.after thread choice (finish line.system thread request outcome)) further := by
  obtain ⟨front, back, rfl, moment, unanswered⟩ := anchored
  have ran := ordered.ran
  rw [List.map_append] at ran
  obtain ⟨middle, first, second⟩ := ran.split
  obtain rfl := moment.same_end first
  refine ⟨_, ordered.finished rfl ?_ unanswered ?_⟩
  · rw [List.map_append, List.map_cons]
    exact moment.append (Ran.call done second)
  · intro since seen' late anchored
    exact anchored.insert moment done late

theorem next_ordered {after : Timeline} (ordered : Ordered region origin line order)
    (moves : Timeline.next region thread choice line = some after) :
    ∃ further, Ordered region origin after further := by
  obtain ⟨system, stepped, rfl⟩ := Option.map_eq_some_iff.mp moves
  have stands := ordered.standing thread
  -- A swap that wins and a refusal take effect now; giving up takes effect where the cursor was read.
  cases next_effect stepped with
  | refused refused => exact ordered.appended (whole_invalid refused _)
  | called valid => exact ⟨order, ordered.entered (Standing.called valid)⟩
  | read phase =>
      rw [phase] at stands
      cases stands with
      | called valid =>
          exact ⟨order, ordered.entered (Standing.loaded valid (Anchored.now ordered.ran _))⟩
  | proposed phase follows =>
      rw [phase] at stands
      cases stands with
      | loaded valid anchored =>
          exact ⟨order, ordered.entered (Standing.proposed valid anchored follows)⟩
  | exhausted phase full =>
      rw [phase] at stands
      cases stands with
      | loaded valid anchored => exact ordered.inserted anchored (whole_full valid full)
  | retried phase again =>
      rw [phase] at stands
      cases stands with
      | proposed valid _ _ =>
          exact ⟨order, ordered.entered (Standing.loaded valid (Anchored.now ordered.ran _))⟩
  | granted phase =>
      rw [phase] at stands
      cases stands with
      | proposed valid _ follows => exact ordered.appended (whole_granted valid follows)

theorem run_ordered {schedule : List (Nat × Choice)} {after : Timeline}
    (ordered : Ordered region origin line order)
    (ran : run (Timeline.next region) schedule line = some after) :
    ∃ further, Ordered region origin after further := by
  induction schedule generalizing line order with
  | nil =>
      cases ran
      exact ⟨order, ordered⟩
  | cons step rest ih =>
      obtain ⟨thread, choice⟩ := step
      obtain ⟨between, moves, ran⟩ := Option.bind_eq_some_iff.mp ran
      obtain ⟨further, ordered⟩ := next_ordered ordered moves
      exact ih ordered ran

theorem sorted_eq {offsets ascending : List UInt64} (same : offsets.Perm ascending)
    (ordered : ascending.Pairwise (· < ·)) : offsets.mergeSort = ascending := by
  have sorted : offsets.mergeSort.Pairwise fun first second => decide (first ≤ second) = true := by
    apply List.pairwise_mergeSort
    · intro first second third low high
      exact decide_eq_true (UInt64.le_trans (of_decide_eq_true low) (of_decide_eq_true high))
    · intro first second
      simpa using UInt64.le_total first second
  apply List.Perm.eq_of_pairwise _ sorted
  · exact ordered.imp fun less => decide_eq_true (UInt64.le_of_lt less)
  · exact (List.mergeSort_perm _ _).trans same
  · intro first second _ _ low high
    exact UInt64.le_antisymm (of_decide_eq_true low) (of_decide_eq_true high)

end Order

def Apart (first second : Grant) : Prop :=
  first.finish ≤ second.start ∨ second.finish ≤ first.start

/-- Whatever the schedule, the finished calls have an order that does not go against time, and made in this
order one after the other they come out as they did and take the cursor to where it is. A thread that is in no
call can go on with any calls at any time, and these come out one after the other if nobody else acts. -/
theorem linearizable (region : Region) (origin : Cursor) (schedule : List (Nat × Choice))
    (system : System) (ran : run (next region) schedule (start origin) = some system) :
    ∃ (line : Timeline) (order : List Timed),
      run (Timeline.next region) schedule (Timeline.start origin) = some line ∧
      line.system = system ∧ line.record.map Timed.call = system.finished ∧
      order.Perm line.record ∧
      (order.Pairwise fun earlier later => earlier.made ≤ later.answered) ∧
      inTurn region (order.map (·.call.request)) origin =
        (order.map Timed.call, system.cursor) ∧
      (granted region system.finished).Pairwise Apart ∧
      (∀ call ∈ system.finished, ∀ grant, call.grant? region = some grant →
        grant.finish.toNat = grant.start.toNat + call.request.len.toNat ∧
          0 < call.request.len.toNat ∧ call.request.align.toNat ∣ grant.start.toNat ∧
          grant.finish ≤ region.size) ∧
      system.cursor.used =
        ((granted region (order.map Timed.call)).getLast?.map Grant.finish).getD origin.used ∧
      (origin.used ≤ region.size → system.cursor.used ≤ region.size) ∧
      (∀ request, (∀ call ∈ system.finished, call.request = request) →
        ∃ addresses,
          Cursor.reserveMany ⟨some region⟩ request.len request.align system.finished.length origin =
            (addresses, system.cursor) ∧
          ((granted region system.finished).map Grant.start).mergeSort =
            addresses.map (· - region.base .executable)) ∧
      ∀ thread requests, system.phases thread = .idle →
        ∃ later last, run (next region) later system = some last ∧
          last.cursor = (inTurn region requests system.cursor).2 ∧
          last.finished = (inTurn region requests system.cursor).1.reverse ++ system.finished := by
  have tracked := Timeline.run_system region schedule (Timeline.start origin)
  obtain ⟨line, kept, rfl⟩ := Option.map_eq_some_iff.mp (tracked.trans ran)
  obtain ⟨order, ordered⟩ := run_ordered (start_ordered region origin) kept
  have same : (order.map Timed.call).Perm line.system.finished := by
    rw [← ordered.recorded]
    exact ordered.complete.map _
  have grants : (granted region (order.map Timed.call)).Perm (granted region line.system.finished) :=
    same.filterMap _
  refine ⟨line, order, kept, rfl, ordered.recorded, ordered.complete, ordered.timely, ?_, ?_, ?_,
    ordered.ran.last_finish, ordered.ran.used_le_size, ?_, ?_⟩
  · have turned := ordered.ran.inTurn_eq
    rwa [List.map_map] at turned
  · apply grants.pairwise
    · exact ordered.ran.in_order.imp fun follows => Or.inl follows.1
    · exact Or.symm
  · intro call member
    exact ordered.ran.fits call (same.mem_iff.mpr member)
  · intro request alike
    obtain ⟨addresses, again, offsets⟩ := ordered.ran.reserveMany_eq fun call member =>
      alike call (same.mem_iff.mp member)
    rw [same.length_eq] at again
    refine ⟨addresses, again, ?_⟩
    rw [offsets]
    apply sorted_eq (grants.symm.map _)
    rw [List.pairwise_map]
    exact ordered.ran.in_order.imp fun follows => follows.2
  · intro thread requests idle
    obtain ⟨later, last, again, _, cursor, finished⟩ := run_inTurn requests idle
    exact ⟨later, last, again, cursor, finished⟩

/-- The second thread loses a swap to the first and another for no reason; the third gives up on a cursor that
the second has moved in the meantime. -/
theorem overtaken_call_in_order :
    let region : Region := ⟨⟨0x10000, 0x80000, 16⟩, 3, Bytes.zeros⟩
    let schedule : List (Nat × Choice) :=
      [(0, .call ⟨4, 8⟩), (1, .call ⟨10, 1⟩), (0, .proceed), (1, .proceed), (0, .proceed),
        (1, .proceed), (0, .proceed), (1, .proceed), (2, .call ⟨13, 1⟩), (2, .proceed),
        (1, .proceed), (1, .fail), (1, .proceed), (1, .proceed), (2, .proceed)]
    ∃ system, run (next region) schedule (start .zero) = some system ∧
      system.finished.map Finished.outcome =
        [.error (.regionFull 13 12), .ok 0x80004, .ok 0x80000] ∧
      (granted region system.finished).Pairwise Apart ∧
      ∃ order : List Timed, (order.map Timed.call).Perm system.finished ∧
        inTurn region (order.map (·.call.request)) .zero =
          (order.map Timed.call, system.cursor) := by
  intro region schedule
  have ends : ∃ system, run (next region) schedule (start .zero) = some system ∧
      system.finished.map Finished.outcome =
        [.error (.regionFull 13 12), .ok 0x80004, .ok 0x80000] := by
    dsimp only [region, schedule]
    refine ⟨_, rfl, ?_⟩
    rfl
  obtain ⟨system, ran, outcomes⟩ := ends
  obtain ⟨line, order, _, _, recorded, complete, _, turned, apart, _⟩ :=
    linearizable region .zero schedule system ran
  refine ⟨system, ran, outcomes, apart, order, ?_, turned⟩
  rw [← recorded]
  exact complete.map _

end TwinView.Contention.Reservation
