import TwinView.Contention.Reservation
import TwinView.Proofs.Memory.Grant

/-!
Calls made one after the other on one cursor. A call that is refused leaves the cursor, wherever it stands,
and a call that is granted takes it to the end of its range. So the ranges follow each other, the last of them
ends at the cursor, and nothing lies between them but padding.
-/

namespace TwinView.Contention.Reservation

variable {region : Region} {request : Request} {call : Finished} {calls earlier later : List Finished}
variable {before middle after : Cursor}

/-- The range that a call was granted, as offsets of the region. -/
def Finished.grant? (region : Region) (call : Finished) : Option Grant :=
  match call.outcome with
  | .ok address =>
      let start := address - region.base .executable
      some ⟨start, start + call.request.len⟩
  | .error _ => none

def granted (region : Region) (calls : List Finished) : List Grant :=
  calls.filterMap (·.grant? region)

/-- A thread that is in no call can make any calls, and if nobody else acts meanwhile they come out in turn. -/
theorem run_inTurn (requests : List Request) {system : System} {thread : Nat}
    (idle : system.phases thread = .idle) :
    ∃ schedule last, run (next region) schedule system = some last ∧ last.phases thread = .idle ∧
      last.cursor = (inTurn region requests system.cursor).2 ∧
      last.finished = (inTurn region requests system.cursor).1.reverse ++ system.finished := by
  induction requests generalizing system with
  | nil => exact ⟨[], system, rfl, idle, rfl, rfl⟩
  | cons request rest ih =>
      obtain ⟨first, ran⟩ := run_whole region request system thread idle
      let middle := finish { system with cursor := (whole region request system.cursor).2 } thread request
        (whole region request system.cursor).1
      have rests : middle.phases thread = .idle := moved_self _ _ _
      obtain ⟨later, last, again, ended, cursor, finished⟩ := ih rests
      refine ⟨first ++ later, last, ?_, ended, cursor, ?_⟩
      · rw [run_append, ran]
        exact again
      · rw [finished]
        simp [inTurn, middle, finish]

/-- From one cursor to another by these calls, one after the other. -/
inductive Ran (region : Region) : Cursor → List Finished → Cursor → Prop where
  | none (cursor : Cursor) : Ran region cursor [] cursor
  | call {before middle after : Cursor} {call : Finished} {rest : List Finished} :
      whole region call.request before = (call.outcome, middle) → Ran region middle rest after →
        Ran region before (call :: rest) after

namespace Ran

theorem inTurn_eq (ran : Ran region before calls after) :
    inTurn region (calls.map Finished.request) before = (calls, after) := by
  induction ran with
  | none => rfl
  | call done _ ih => simp only [List.map_cons, inTurn, done, ih]

theorem append (first : Ran region before earlier middle) (second : Ran region middle later after) :
    Ran region before (earlier ++ later) after := by
  induction first with
  | none => exact second
  | call done _ ih => exact Ran.call done (ih second)

theorem snoc (ran : Ran region before calls middle)
    (done : whole region call.request middle = (call.outcome, after)) :
    Ran region before (calls ++ [call]) after :=
  ran.append (Ran.call done (Ran.none after))

theorem split (ran : Ran region before (earlier ++ later) after) :
    ∃ middle, Ran region before earlier middle ∧ Ran region middle later after := by
  induction earlier generalizing before with
  | nil => exact ⟨before, Ran.none before, ran⟩
  | cons call rest ih =>
      cases ran with
      | call done ran =>
          obtain ⟨middle, first, second⟩ := ih ran
          exact ⟨middle, Ran.call done first, second⟩

theorem same_end {other : Cursor} (ran : Ran region before calls after)
    (again : Ran region before calls other) : other = after := by
  induction ran with
  | none =>
      cases again
      rfl
  | call done _ ih =>
      cases again with
      | call done' again =>
          rw [done] at done'
          cases done'
          exact ih again

end Ran

section Whole

theorem whole_invalid {fault : Fault}
    (refused : Cursor.checkRequest request.len request.align = .error fault) (cursor : Cursor) :
    whole region request cursor = (.error fault, cursor) := by
  simp [whole, Cursor.reserve, EStateM.run, refused, Except.bind]

theorem whole_full (valid : Cursor.checkRequest request.len request.align = .ok ())
    (full : Cursor.next region.size request.len request.align before.used = none) :
    whole region request before =
      (.error (.regionFull request.len (before.left region.size)), before) := by
  simp [whole, Cursor.reserve, Slot.owned, EStateM.run, valid, full, Except.bind]

theorem whole_granted {grant : Grant}
    (valid : Cursor.checkRequest request.len request.align = .ok ())
    (follows : Cursor.next region.size request.len request.align before.used = some grant) :
    whole region request before = (.ok (region.base .executable + grant.start), ⟨grant.finish⟩) := by
  simp [whole, Cursor.reserve, Slot.owned, EStateM.run, valid, follows, Except.bind]

/-- A call that is refused leaves the cursor; one that is granted starts at it or behind it, and takes it to
the end of the range. -/
theorem whole_cases (done : whole region call.request before = (call.outcome, after)) :
    (call.grant? region = none ∧ after = before) ∨
      ∃ start, call.grant? region = some ⟨start, after.used⟩ ∧
        before.used.toNat ≤ start.toNat ∧ call.request.align.toNat ∣ start.toNat ∧
        after.used.toNat = start.toNat + call.request.len.toNat ∧ 0 < call.request.len.toNat ∧
        after.used.toNat ≤ region.size.toNat := by
  rcases Cursor.reserve_cases ⟨some region⟩ call.request.len call.request.align before with
    ⟨fault, refused, _⟩ | ⟨owner, address, cursor, reserved, grants⟩
  · simp only [whole, EStateM.run, refused, Prod.mk.injEq] at done
    obtain ⟨outcome, rfl⟩ := done
    exact Or.inl ⟨by rw [Finished.grant?, ← outcome], rfl⟩
  · simp only [whole, EStateM.run, reserved, Prod.mk.injEq] at done
    obtain ⟨outcome, rfl⟩ := done
    obtain rfl : owner = region := (Option.some.inj grants.owned).symm
    have finish := grants.finish
    rw [← grants.start] at finish
    have ends : address - owner.base .executable + call.request.len = cursor.used := by
      apply UInt64.toNat_inj.mp
      rw [UInt64.toNat_add, ← finish]
      exact Nat.mod_eq_of_lt cursor.used.toNat_lt
    refine Or.inr ⟨address - owner.base .executable, ?_, ?_, ?_, finish, grants.nonempty,
      grants.inside⟩
    · rw [Finished.grant?, ← outcome, ← ends]
    · rw [grants.start]
      exact grants.behind
    · rw [grants.start]
      exact Alignment.dvd_ceiling _ _

end Whole

namespace Ran

theorem fits (ran : Ran region before calls after) :
    ∀ call ∈ calls, ∀ grant, call.grant? region = some grant →
      grant.finish.toNat = grant.start.toNat + call.request.len.toNat ∧
        0 < call.request.len.toNat ∧ call.request.align.toNat ∣ grant.start.toNat ∧
        grant.finish ≤ region.size := by
  induction ran with
  | none => simp
  | call done _ ih =>
      intro other member grant found
      rcases List.mem_cons.mp member with rfl | later
      · rcases whole_cases done with ⟨missing, _⟩ | ⟨start, is, _, aligned, finish, nonempty, inside⟩
        · rw [missing] at found
          cases found
        · rw [is] at found
          cases found
          exact ⟨finish, nonempty, aligned, UInt64.le_iff_toNat_le.mpr inside⟩
      · exact ih other later grant found

theorem behind_before (ran : Ran region before calls after) :
    ∀ grant ∈ granted region calls, before.used.toNat ≤ grant.start.toNat := by
  induction ran with
  | none => simp [granted]
  | call done _ ih =>
      intro grant member
      rcases whole_cases done with ⟨missing, rfl⟩ | ⟨start, is, behind, _, finish, _⟩
      · simp only [granted, List.filterMap_cons, missing] at member
        exact ih grant member
      · simp only [granted, List.filterMap_cons, is] at member
        rcases List.mem_cons.mp member with rfl | later
        · exact behind
        · have further := ih grant later
          omega

theorem in_order (ran : Ran region before calls after) :
    (granted region calls).Pairwise fun first second =>
      first.finish ≤ second.start ∧ first.start < second.start := by
  induction ran with
  | none => exact List.Pairwise.nil
  | call done ran ih =>
      rcases whole_cases done with ⟨missing, rfl⟩ | ⟨start, is, _, _, finish, nonempty, _⟩
      · simpa only [granted, List.filterMap_cons, missing] using ih
      · simp only [granted, List.filterMap_cons, is]
        apply List.pairwise_cons.mpr
        constructor
        · intro second member
          have behind := ran.behind_before second member
          constructor
          · exact UInt64.le_iff_toNat_le.mpr behind
          · have shorter : start.toNat < second.start.toNat := by omega
            exact UInt64.lt_iff_toNat_lt.mpr shorter
        · exact ih

/-- The cursor stands at the end of the last range, or where it stood before if there is none. -/
theorem last_finish (ran : Ran region before calls after) :
    after.used = ((granted region calls).getLast?.map Grant.finish).getD before.used := by
  induction ran with
  | none => rfl
  | call done ran ih =>
      rcases whole_cases done with ⟨missing, rfl⟩ | ⟨start, is, _⟩
      · simpa only [granted, List.filterMap_cons, missing] using ih
      · rw [ih]
        simp only [granted, List.filterMap_cons, is]
        cases rest : List.filterMap _ _ <;> simp [List.getLast?_cons]

theorem used_le_size (ran : Ran region before calls after) (within : before.used ≤ region.size) :
    after.used ≤ region.size := by
  induction ran with
  | none => exact within
  | call done _ ih =>
      rcases whole_cases done with ⟨_, rfl⟩ | ⟨start, _, _, _, _, _, inside⟩
      · exact ih within
      · exact ih (UInt64.le_iff_toNat_le.mpr inside)

/-- The same request again and again, without interruption. -/
theorem reserveMany_eq (ran : Ran region before calls after)
    (alike : ∀ call ∈ calls, call.request = request) :
    ∃ addresses,
      Cursor.reserveMany ⟨some region⟩ request.len request.align calls.length before =
        (addresses, after) ∧
      addresses.map (· - region.base .executable) = (granted region calls).map Grant.start := by
  induction ran with
  | none => exact ⟨[], rfl, rfl⟩
  | @call before middle after call rest done _ ih =>
      obtain rfl : call.request = request := alike call List.mem_cons_self
      obtain ⟨addresses, again, offsets⟩ :=
        ih fun other member => alike other (List.mem_cons_of_mem _ member)
      cases reserved : Cursor.reserve ⟨some region⟩ call.request.len call.request.align before with
      | ok address cursor =>
          simp only [whole, EStateM.run, reserved, Prod.mk.injEq] at done
          obtain ⟨outcome, rfl⟩ := done
          refine ⟨address :: addresses, ?_, ?_⟩
          · simp only [List.length_cons, Cursor.reserveMany, EStateM.run, reserved, again]
          · simp [granted, Finished.grant?, ← outcome, offsets]
      | error fault cursor =>
          simp only [whole, EStateM.run, reserved, Prod.mk.injEq] at done
          obtain ⟨outcome, rfl⟩ := done
          refine ⟨addresses, ?_, ?_⟩
          · simp only [List.length_cons, Cursor.reserveMany, EStateM.run, reserved, again]
          · simp [granted, Finished.grant?, ← outcome, offsets]

end Ran

end TwinView.Contention.Reservation
