import TwinView.Proofs.Session.Image

/-!
The memory of a session does not depend on its gate. Two sessions of the same configured size that are asked for
the same give the same answers and end with the same bytes, whatever their profiles are, whatever their hosts
answer, and whatever is done to their gates in between. Erasing what happens at the gates is all that makes two
runs comparable; each step then keeps the two images equal, or it is one of a gate and leaves the image alone.
-/

namespace TwinView

open Activation (Gate Host SilentHost SteeredHost)

/-- What can be asked of the memory of a session. Addresses are given as offsets in the executable view; since
sums wrap, every address is one. -/
inductive Demand where
  | establish
  | establishSized (size : UInt64)
  | reserve (len align : UInt64)
  | emit (code : Code) (align : UInt64)
  | write (offset : UInt64) (code : Code)
  | counterpart (offset : UInt64)
  | synchronize (offset len : UInt64)
  | renew
  | release
  | used
  | remaining
  | available

/-- What happens to a session: a demand on its memory, with the places that there are for a region at that time,
or a step of its gate, which includes whatever becomes of the host. -/
inductive Event (H : Type) where
  | memory (placement : Placement) (demand : Demand)
  | gate (step : Gate.Step H)

/-- A run without what happens at the gate. -/
def erase {H : Type} : List (Event H) → List (Demand × (UInt64 → List Verdict))
  | [] => []
  | .gate _ :: rest => erase rest
  | .memory placement demand :: rest => (demand, placement.verdicts) :: erase rest

namespace Session

variable {H K : Type} [Host H] [Host K]

def serve (session : Session H) (placement : Placement) : Demand → Outcome × Session H
  | .establish => outcomeOf .executable ((perform (.establish placement)).run session)
  | .establishSized size =>
      outcomeOf .executable ((perform (.establishSized placement size)).run session)
  | .reserve len align => outcomeOf .executable ((perform (.reserve len align)).run session)
  | .emit code align => outcomeOf .executable ((perform (.emit code align)).run session)
  | .write offset code =>
      outcomeOf .executable
        ((perform (.write (session.baseOf .executable + offset) code)).run session)
  | .counterpart offset =>
      outcomeOf .writable
        ((perform (.counterpart (session.baseOf .executable + offset))).run session)
  | .synchronize offset len =>
      outcomeOf .executable
        ((perform (.synchronize (session.baseOf .executable + offset) len)).run session)
  | .renew => outcomeOf .executable ((perform (.renew placement)).run session)
  | .release => outcomeOf .executable ((perform .release).run session)
  | .used => (.count session.used, session)
  | .remaining => (.count session.remaining, session)
  | .available => (.available session.isAvailable, session)

/-- The outcomes of the demands of a run, and the session at its end. -/
def play : List (Event H) → Session H → List Outcome × Session H
  | [], session => ([], session)
  | .gate step :: rest, session => play rest (session.after (.gate step))
  | .memory placement demand :: rest, session =>
      let (outcome, next) := session.serve placement demand
      let (outcomes, last) := play rest next
      (outcome :: outcomes, last)

variable {left : Session H} {right : Session K}

theorem Alike.serve_agrees (alike : left.Alike right) {placement elsewhere : Placement}
    (verdicts : placement.verdicts = elsewhere.verdicts) (demand : Demand) :
    Agree (left.serve placement demand) (right.serve elsewhere demand) := by
  cases demand with
  | establish =>
      have agrees := alike.establishSized_agrees (congrFun verdicts left.settings.regionSize)
      have sized : (perform (.establishSized elsewhere left.settings.regionSize)).run right =
          (perform (.establish elsewhere)).run right := by
        rw [alike.configured]
        rfl
      rwa [sized] at agrees
  | establishSized size => exact alike.establishSized_agrees (congrFun verdicts size)
  | reserve len align => exact alike.reserve_agrees len align
  | emit code align => exact alike.emit_agrees code align
  | write offset code => exact alike.write_agrees offset code
  | counterpart offset => exact alike.counterpart_agrees offset
  | synchronize offset len => exact alike.synchronize_agrees offset len
  | renew => exact alike.renew_agrees verdicts
  | release => exact alike.release_agrees
  | used => exact ⟨congrArg Outcome.count alike.used, alike⟩
  | remaining => exact ⟨congrArg Outcome.count alike.remaining, alike⟩
  | available => exact ⟨congrArg Outcome.available alike.available, alike⟩

/-- Runs that are the same but for the gates agree, from sessions that show the same. The induction is on
both runs: a step of either gate is skipped, and what remains are demands at the same time. -/
theorem Alike.play_agrees {events : List (Event H)} {others : List (Event K)}
    (alike : left.Alike right) (erased : erase events = erase others) :
    (play events left).1 = (play others right).1 ∧
      (play events left).2.Alike (play others right).2 := by
  induction events generalizing others left right with
  | nil =>
      induction others generalizing right with
      | nil => exact ⟨rfl, alike⟩
      | cons event rest ih =>
          cases event with
          | gate step =>
              have moved : left.Alike (right.after (.gate step)) :=
                ⟨alike.configured, alike.regions, alike.cursor⟩
              exact ih moved erased
          | memory placement demand => cases erased
  | cons event rest ih =>
      cases event with
      | gate step =>
          have moved : (left.after (.gate step)).Alike right :=
            ⟨alike.configured, alike.regions, alike.cursor⟩
          exact ih moved erased
      | memory placement demand =>
          induction others generalizing right with
          | nil => cases erased
          | cons other later skip =>
              cases other with
              | gate step =>
                  have moved : left.Alike (right.after (.gate step)) :=
                    ⟨alike.configured, alike.regions, alike.cursor⟩
                  exact skip moved erased
              | memory elsewhere asked =>
                  rw [erase, erase, List.cons.injEq, Prod.mk.injEq] at erased
                  obtain ⟨⟨rfl, verdicts⟩, remaining⟩ := erased
                  have served := alike.serve_agrees verdicts demand
                  have played := ih served.2 remaining
                  simp only [play, served.1, played.1, true_and]
                  exact played.2

/-- Two sessions of the same size that are asked for the same, each at its own places. Their profiles and hosts
may differ, and so may all that is done to their gates. The answers are the same one by one, and in the end
there are the same bytes in the same room with the same part of it used. -/
theorem memory_blind_to_gate (settings others : Settings) (host : H) (stranger : K)
    (events : List (Event H)) (happenings : List (Event K))
    (sized : settings.regionSize = others.regionSize) (erased : erase events = erase happenings) :
    let mine := play events (start settings host)
    let theirs := play happenings (start others stranger)
    mine.1 = theirs.1 ∧ mine.2.used = theirs.2.used ∧ mine.2.slot.size? = theirs.2.slot.size? ∧
      ∀ region other, mine.2.slot.region = some region → theirs.2.slot.region = some other →
        ∀ view offset, offset < region.size →
          region.load view (region.base view + offset) = other.load view (other.base view + offset) := by
  intro mine theirs
  have start : (start settings host).Alike (start others stranger) := ⟨sized, rfl, rfl⟩
  obtain ⟨answers, alike⟩ := start.play_agrees erased
  refine ⟨answers, alike.used, alike.size, ?_⟩
  intro region other owned found view offset inside
  have same := alike.image owned found
  have equal : region.size = other.size := congrArg Prod.fst same
  have content : region.content = other.content := congrArg Prod.snd same
  have within : offset < other.size := by rwa [← equal]
  rw [region.load_offset view inside, other.load_offset view within, content]

/-- Two sessions with different profiles, hosts and places, one of which has its gate requested, refused and
failed between the demands. -/
theorem refused_gate_unnoticed :
    let code : Code := ⟨[0x90, 0xC3], by decide⟩
    let near : Placement := .addressSpace 3 0x10000 0x80000
    let far : Placement := .addressSpace 7 0x7F0000000000 0x7F0000100000
    let demands : List Demand := [.emit code 1, .establishSized 4096, .emit code 16, .emit code 16,
      .counterpart 17, .counterpart 4096, .reserve 4096 1, .used, .renew, .write 4095 code, .remaining]
    let events : List (Event SteeredHost) := demands.map (.memory near)
    let happenings : List (Event SilentHost) := demands.flatMap fun demand =>
      [.gate .request, .gate (.outside SilentHost.refusing), .memory far demand, .gate .fail]
    let mine := play events (start Settings.immediate SteeredHost.fresh)
    let theirs := play happenings (start Settings.default SilentHost.fresh)
    Settings.immediate.regionSize = Settings.default.regionSize ∧ erase events = erase happenings ∧
      mine.1 = theirs.1 ∧
      theirs.1 = [.failed .noRegion, .done, .offset 0, .offset 16, .offset 17,
        .failed (.foreignAddress 4096), .failed (.regionFull 4096 4078), .count 18, .done,
        .failed (.foreignAddress 4097), .count 4096] := by
  intro code near far demands events happenings mine theirs
  have verdicts : near.verdicts = far.verdicts := by
    funext size
    simp only [Placement.verdicts, HostAnswers.verdicts, near, far, Placement.addressSpace]
    split <;> split <;> rfl
  have erased : erase events = erase happenings := by
    simp only [events, happenings, demands, List.map, List.flatMap_cons, List.flatMap_nil,
      List.cons_append, List.nil_append, erase, verdicts]
  have agreed := memory_blind_to_gate Settings.immediate Settings.default SteeredHost.fresh
    SilentHost.fresh events happenings rfl erased
  exact ⟨rfl, erased, agreed.1, by decide +kernel⟩

end Session

end TwinView
