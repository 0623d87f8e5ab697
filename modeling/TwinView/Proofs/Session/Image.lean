import TwinView.Proofs.Memory.Translation
import TwinView.Proofs.Session.Effect

/-!
What a session shows of its memory: the size that is configured, the region's size and bytes, and the cursor. The
profile, the gate and its host have no part in it, nor has the place at which the views happen to lie: addresses
are counted from the base of their view here. Two sessions that show the same answer every demand on their memory
with the same outcome, and show the same afterwards. Establishing a region moves the gate as well, but what the
gate makes of that never comes back.
-/

namespace TwinView

/-- What the host makes of a call: an error number, or whether the answer is of use. -/
abbrev Verdict := Except Int Bool

/-- What the host makes of the calls for a region, without the numbers and places that it gives out. A mapping at
address zero is of no use. -/
def HostAnswers.verdicts (answers : HostAnswers) : List Verdict :=
  [answers.descriptor.map fun _ => true, answers.resize.map fun _ => true, answers.writable.map (· ≠ 0),
    answers.executable.map (· ≠ 0)]

def Placement.verdicts (placement : Placement) (size : UInt64) : List Verdict :=
  (placement size).verdicts

/-- The fault as it would be of a view that starts at zero. -/
def Fault.relativeTo (base : UInt64) : Fault → Fault
  | .foreignAddress address => .foreignAddress (address - base)
  | fault => fault

theorem Fault.relativeTo_blameless {fault : Fault} (blameless : fault.isCallerBug = false)
    (base : UInt64) : fault.relativeTo base = fault := by
  cases fault with
  | foreignAddress address => cases blameless
  | _ => rfl

namespace Region

/-- The region wherever it lies. -/
def image (region : Region) : UInt64 × Bytes := (region.size, region.content)

theorem refused_alike {α : Type} {operation : String} {left right : Except Int α}
    (same : (left.map fun _ => true) = right.map fun _ => true) :
    HostAnswers.refused operation left = HostAnswers.refused operation right := by
  cases left <;> cases right <;> cases same <;> rfl

theorem unmapped_alike {operation : String} {left right : Except Int UInt64}
    (same : left.map (fun base => decide (base ≠ 0)) = right.map fun base => decide (base ≠ 0)) :
    HostAnswers.unmapped operation left = HostAnswers.unmapped operation right := by
  cases left with
  | error errno => cases right <;> cases same; rfl
  | ok base =>
      cases right with
      | error errno => cases same
      | ok other =>
          have useful : decide (base ≠ 0) = decide (other ≠ 0) := Except.ok.inj same
          have zero : base = 0 ↔ other = 0 := Decidable.not_iff_not.mp (decide_eq_decide.mp useful)
          simp only [HostAnswers.unmapped, zero]

/-- The host refuses both or neither, and the same call of both. -/
theorem refusal_alike {left right : HostAnswers} (same : left.verdicts = right.verdicts) :
    left.refusal? = right.refusal? := by
  simp only [HostAnswers.verdicts, List.cons.injEq] at same
  obtain ⟨opened, resized, written, executed, _⟩ := same
  rw [HostAnswers.refusal?, HostAnswers.refusal?, refused_alike opened, refused_alike resized,
    unmapped_alike written, unmapped_alike executed]

theorem illSized_alike {left right : HostAnswers} (same : left.verdicts = right.verdicts) {size : UInt64}
    (ill : IllSized left size) : IllSized right size := by
  rcases ill with zero | ⟨beyond, descriptor, opened⟩
  · exact Or.inl zero
  · have answered := (List.cons.inj same).1
    rw [opened] at answered
    cases there : right.descriptor with
    | error errno =>
        rw [there] at answered
        cases answered
    | ok other => exact Or.inr ⟨beyond, other, there⟩

theorem ofAnswers_image {left right : HostAnswers} (same : left.verdicts = right.verdicts)
    (size : UInt64) :
    (ofAnswers left size).map image = (ofAnswers right size).map image := by
  by_cases ill : IllSized left size
  · rw [ofAnswers_illSized ill, ofAnswers_illSized (illSized_alike same ill)]
  have well : ¬ IllSized right size := fun other => ill (illSized_alike same.symm other)
  cases here : ofAnswers left size with
  | error fault =>
      have refused := (ofAnswers_error_iff ill).mp here
      rw [refusal_alike same] at refused
      rw [(ofAnswers_error_iff well).mpr refused]
  | ok region =>
      cases there : ofAnswers right size with
      | error fault =>
          have refused := (ofAnswers_error_iff well).mp there
          rw [← refusal_alike same, ← ofAnswers_error_iff ill, here] at refused
          cases refused
      | ok other =>
          have made := ofAnswers_made here
          have like := ofAnswers_made there
          simp only [Except.map, image, made.size_eq, made.content_eq, like.size_eq, like.content_eq]

end Region

/-- Slots of the same image serve a request alike: at the same offset, or with the same fault. -/
theorem Cursor.reserve_alike {slot other : Slot}
    (same : slot.region.map Region.image = other.region.map Region.image) (len align : UInt64)
    (cursor : Cursor) :
    (∃ fault, reserve slot len align cursor = .error fault cursor ∧
      reserve other len align cursor = .error fault cursor) ∨
      ∃ mine theirs offset moved, slot.region = some mine ∧ other.region = some theirs ∧
        reserve slot len align cursor = .ok (mine.base .executable + offset) moved ∧
        reserve other len align cursor = .ok (theirs.base .executable + offset) moved := by
  rcases slot with ⟨_ | mine⟩ <;> rcases other with ⟨_ | theirs⟩
  · cases checked : checkRequest len align with
    | error fault => exact Or.inl ⟨fault, by simp [reserve, checked, Except.bind]⟩
    | ok _ => exact Or.inl ⟨.noRegion, by simp [reserve, checked, Except.bind, Slot.owned]⟩
  · cases same
  · cases same
  · have sized : mine.size = theirs.size := congrArg Prod.fst (Option.some.inj same)
    cases checked : checkRequest len align with
    | error fault => exact Or.inl ⟨fault, by simp [reserve, checked, Except.bind]⟩
    | ok _ =>
        cases following : next mine.size len align cursor.used with
        | none =>
            refine Or.inl ⟨.regionFull len (cursor.left mine.size), ?_⟩
            simp [reserve, checked, Except.bind, Slot.owned, following, ← sized]
        | some grant =>
            refine Or.inr ⟨mine, theirs, grant.start, ⟨grant.finish⟩, rfl, rfl, ?_⟩
            simp [reserve, checked, Except.bind, Slot.owned, following, ← sized]

/-- Filling slots of the same image fails with the same fault, or leaves slots of the same image. -/
theorem Slot.fill_alike {slot other : Slot} {placement elsewhere : Placement} {size : UInt64}
    (same : slot.region.map Region.image = other.region.map Region.image)
    (verdicts : placement.verdicts size = elsewhere.verdicts size) :
    (∃ fault, slot.region = none ∧ other.region = none ∧
      fill placement size slot = .error fault slot ∧
      fill elsewhere size other = .error fault other) ∨
      ∃ next after, fill placement size slot = .ok () next ∧
        fill elsewhere size other = .ok () after ∧
        next.region.map Region.image = after.region.map Region.image := by
  rcases slot with ⟨_ | mine⟩ <;> rcases other with ⟨_ | theirs⟩
  · have made := Region.ofAnswers_image verdicts size
    cases here : Region.ofAnswers (placement size) size <;>
      cases there : Region.ofAnswers (elsewhere size) size <;> rw [here, there] at made
    case error.error fault _ =>
      cases made
      exact Or.inl ⟨fault, rfl, rfl, fill_refused here, fill_refused there⟩
    case ok.ok region other =>
      have equal : region.image = other.image := Except.ok.inj made
      exact Or.inr ⟨⟨some region⟩, ⟨some other⟩, fill_made here, fill_made there, congrArg some equal⟩
    all_goals cases made
  · cases same
  · cases same
  · exact Or.inr ⟨_, _, fill_filled _ _ _, fill_filled _ _ _, same⟩

/-- What a demand on the memory of a session is answered. Addresses are offsets in their view, those in faults as
well. -/
inductive Outcome where
  | done
  | offset (offset : UInt64)
  | count (bytes : UInt64)
  | available (answer : Bool)
  | failed (fault : Fault)
  deriving DecidableEq

namespace Session

open Activation (Gate Host)

variable {H K : Type}

def baseOf (session : Session H) (view : View) : UInt64 := (session.slot.base? view).getD 0

/-- What a step has come to. An address that it answers is one of the given view. -/
def outcomeOf (view : View) : EStateM.Result Fault (Session H) Answer → Outcome × Session H
  | .ok (.address address) next => (.offset (address - next.baseOf view), next)
  | .ok _ next => (.done, next)
  | .error fault next => (.failed (fault.relativeTo (next.baseOf .executable)), next)

/-- The sessions show the same memory, wherever it lies. -/
structure Alike (left : Session H) (right : Session K) : Prop where
  configured : left.settings.regionSize = right.settings.regionSize
  regions : left.slot.region.map Region.image = right.slot.region.map Region.image
  cursor : left.cursor = right.cursor

/-- The outcomes are the same, and the sessions show the same memory afterwards. -/
def Agree (left : Outcome × Session H) (right : Outcome × Session K) : Prop :=
  left.1 = right.1 ∧ left.2.Alike right.2

section Steps

variable {left : Session H} {right : Session K}

theorem Alike.region_cases (alike : left.Alike right) :
    (left.slot.region = none ∧ right.slot.region = none) ∨
      ∃ mine theirs, left.slot.region = some mine ∧ right.slot.region = some theirs ∧
        mine.image = theirs.image := by
  have same := alike.regions
  cases mine : left.slot.region with
  | none =>
      rw [mine] at same
      exact Or.inl ⟨rfl, Option.map_eq_none_iff.mp same.symm⟩
  | some region =>
      rw [mine] at same
      obtain ⟨other, theirs, equal⟩ := Option.map_eq_some_iff.mp same.symm
      exact Or.inr ⟨region, other, rfl, theirs, equal.symm⟩

theorem Alike.image (alike : left.Alike right) {mine theirs : Region}
    (owned : left.slot.region = some mine) (found : right.slot.region = some theirs) :
    mine.image = theirs.image := by
  have same := alike.regions
  rw [owned, found] at same
  exact Option.some.inj same

theorem Alike.withSlots (alike : left.Alike right) {slot other : Slot}
    (same : slot.region.map Region.image = other.region.map Region.image) :
    Alike { left with slot := slot } { right with slot := other } :=
  ⟨alike.configured, same, alike.cursor⟩

theorem Alike.size (alike : left.Alike right) : left.slot.size? = right.slot.size? := by
  have sizes := congrArg (Option.map Prod.fst) alike.regions
  rwa [Option.map_map, Option.map_map] at sizes

theorem Alike.available (alike : left.Alike right) : left.isAvailable = right.isAvailable := by
  have filled := congrArg Option.isSome alike.regions
  rwa [Option.isSome_map, Option.isSome_map] at filled

theorem Alike.used (alike : left.Alike right) : left.used = right.used :=
  congrArg Cursor.used alike.cursor

theorem Alike.remaining (alike : left.Alike right) : left.remaining = right.remaining := by
  rw [Session.remaining, Session.remaining, Cursor.remaining, Cursor.remaining, alike.size,
    alike.cursor]

end Steps

section Answers

variable {left : Session H} {right : Session K}

theorem baseOf_owned {session : Session H} {region : Region}
    (owned : session.slot.region = some region) (view : View) :
    session.baseOf view = region.base view := by
  simp [baseOf, Slot.base?, owned]

theorem baseOf_missing {session : Session H} (missing : session.slot.region = none) (view : View) :
    session.baseOf view = 0 := by
  simp [baseOf, Slot.base?, missing]

theorem Alike.reserve (alike : left.Alike right) (len align : UInt64) :
    (∃ fault, fault.isCallerBug = false ∧ (reserve len align).run left = .error fault left ∧
      (reserve len align).run right = .error fault right) ∨
      ∃ mine theirs offset moved, left.slot.region = some mine ∧ right.slot.region = some theirs ∧
        (reserve len align).run left =
          .ok (mine.base .executable + offset) { left with cursor := moved } ∧
        (reserve len align).run right =
          .ok (theirs.base .executable + offset) { right with cursor := moved } := by
  rcases Cursor.reserve_alike alike.regions len align left.cursor with
    ⟨fault, refused, declined⟩ | ⟨mine, theirs, offset, moved, owned, found, here, there⟩
  · rw [alike.cursor] at declined
    exact Or.inl ⟨fault, Cursor.reserve_blameless refused, onCursor_error refused,
      onCursor_error declined⟩
  · rw [alike.cursor] at there
    exact Or.inr ⟨mine, theirs, offset, moved, owned, found, onCursor_ok here, onCursor_ok there⟩

/-- An operation that works on ranges which the view covers and on no others, whatever it makes of them. -/
theorem Alike.onRange (alike : left.Alike right) (offset len : UInt64)
    (operation : UInt64 → EStateM Fault Region Unit) (effect : Region → Region)
    (exactly : ∀ region : Region, operation (region.base .executable + offset) region =
      if region.views.Covers (region.base .executable + offset) len then .ok () (effect region)
      else .error (.foreignAddress
        (region.views.strayAddress (region.base .executable + offset) len)) region)
    (same : ∀ mine theirs : Region, mine.image = theirs.image →
      (effect mine).image = (effect theirs).image) :
    Agree
      (outcomeOf .executable ((do
        onSlot (Slot.onRegion (operation (left.baseOf .executable + offset)))
        pure .done : Op H Answer).run left))
      (outcomeOf .executable ((do
        onSlot (Slot.onRegion (operation (right.baseOf .executable + offset)))
        pure .done : Op K Answer).run right)) := by
  rcases alike.region_cases with ⟨missing, absent⟩ | ⟨mine, theirs, owned, found, equal⟩
  · simp only [EStateM.run_bind, onRegion_missing missing, onRegion_missing absent]
    exact ⟨rfl, alike⟩
  · have sized : mine.size = theirs.size := congrArg Prod.fst equal
    have here := exactly mine
    have there := exactly theirs
    rw [baseOf_owned owned, baseOf_owned found]
    simp only [Region.covers_relative, sized] at here there
    split at here
    · rename_i covered
      rw [if_pos covered] at there
      simp only [EStateM.run_bind, onRegion_ok owned here, onRegion_ok found there]
      exact ⟨rfl, alike.withSlots (congrArg some (same mine theirs equal))⟩
    · rename_i uncovered
      rw [if_neg uncovered] at there
      simp only [EStateM.run_bind, onRegion_refused owned here, onRegion_refused found there]
      exact ⟨by simp only [outcomeOf, Fault.relativeTo, baseOf_owned owned, baseOf_owned found,
        Region.stray_relative, sized], alike⟩

/-- Emitting fails with what reserving fails with. -/
theorem emit_refused {session : Session H} {code : Code} {align : UInt64} {fault : Fault}
    (refused : (Session.reserve code.size align).run session = .error fault session) :
    (emit code align).run session = .error fault session := by
  simp only [emit, EStateM.run_bind, refused]

/-- Emitting stores the code where reserving has found room for it. -/
theorem emit_reserved {session : Session H} {code : Code} {align exec : UInt64} {moved : Cursor}
    {region : Region} (owned : session.slot.region = some region)
    (reserved : (Session.reserve code.size align).run session =
      .ok exec { session with cursor := moved }) :
    (emit code align).run session =
      .ok exec (storing { session with cursor := moved } region exec code) := by
  rcases session.emit_cases code align with
    ⟨fault, _, refused, _⟩ | ⟨holder, address, cursor, grants, taken, emitted⟩
  · rw [reserved] at refused
    cases refused
  · rw [reserved] at taken
    cases taken
    cases owned.symm.trans grants.owned
    exact emitted

theorem storing_image (session : Session H) (region : Region) (offset : UInt64) (code : Code) :
    (session.storing region (region.base .executable + offset) code).slot.region.map Region.image =
      some (region.size, region.content.store offset.toNat code.bytes) := by
  simp only [storing, Word.add_sub_base]
  rfl

section Counterparts

variable {session : Session H} {region : Region} {exec : UInt64}

theorem counterpart_missing (missing : session.slot.region = none) :
    (counterpart exec).run session = .error .noRegion session := by
  have none : session.slot.counterpart .executable exec = .error .noRegion := by
    simp only [Slot.counterpart, Slot.owned, missing]
    rfl
  simp [counterpart, none]
  rfl

theorem counterpart_found {address : UInt64} (owned : session.slot.region = some region)
    (found : region.views.across .executable exec = .ok address) :
    (counterpart exec).run session = .ok address session := by
  have located : session.slot.counterpart .executable exec = .ok address := by
    simp only [Slot.counterpart, Slot.owned, owned]
    exact found
  simp [counterpart, located]

theorem counterpart_refused {fault : Fault} (owned : session.slot.region = some region)
    (refused : region.views.across .executable exec = .error fault) :
    (counterpart exec).run session = .error fault session := by
  have located : session.slot.counterpart .executable exec = .error fault := by
    simp only [Slot.counterpart, Slot.owned, owned]
    exact refused
  simp [counterpart, located]
  rfl

end Counterparts

section Steps

variable [Host H] [Host K]

theorem Alike.reserve_agrees (alike : left.Alike right) (len align : UInt64) :
    Agree (outcomeOf .executable ((perform (.reserve len align)).run left))
      (outcomeOf .executable ((perform (.reserve len align)).run right)) := by
  rcases alike.reserve len align with
    ⟨fault, blameless, refused, declined⟩ |
      ⟨mine, theirs, offset, moved, owned, found, here, there⟩
  · simp only [perform, EStateM.run_bind, refused, declined]
    exact ⟨by simp only [outcomeOf, Fault.relativeTo_blameless blameless], alike⟩
  · have base : baseOf { left with cursor := moved } .executable = mine.base .executable :=
      baseOf_owned owned .executable
    have other : baseOf { right with cursor := moved } .executable = theirs.base .executable :=
      baseOf_owned found .executable
    simp only [perform, EStateM.run_bind, here, there, EStateM.run_pure, outcomeOf, base, other,
      Word.add_sub_base]
    exact ⟨rfl, alike.configured, alike.regions, rfl⟩

theorem Alike.emit_agrees (alike : left.Alike right) (code : Code) (align : UInt64) :
    Agree (outcomeOf .executable ((perform (.emit code align)).run left))
      (outcomeOf .executable ((perform (.emit code align)).run right)) := by
  rcases alike.reserve code.size align with
    ⟨fault, blameless, refused, declined⟩ |
      ⟨mine, theirs, offset, moved, owned, found, here, there⟩
  · simp only [perform, EStateM.run_bind, emit_refused refused, emit_refused declined]
    exact ⟨by simp only [outcomeOf, Fault.relativeTo_blameless blameless], alike⟩
  · simp only [perform, EStateM.run_bind, emit_reserved owned here, emit_reserved found there,
      EStateM.run_pure, outcomeOf]
    constructor
    · exact congrArg Outcome.offset
        ((Word.add_sub_base _ offset).trans (Word.add_sub_base _ offset).symm)
    · have stored : (mine.size, mine.content.store offset.toNat code.bytes) =
          (theirs.size, theirs.content.store offset.toNat code.bytes) :=
        congrArg (fun image => (image.1, image.2.store offset.toNat code.bytes))
          (alike.image owned found)
      exact ⟨alike.configured, by rw [storing_image, storing_image, stored], rfl⟩

theorem Alike.write_agrees (alike : left.Alike right) (offset : UInt64) (code : Code) :
    Agree
      (outcomeOf .executable
        ((perform (.write (left.baseOf .executable + offset) code)).run left))
      (outcomeOf .executable
        ((perform (.write (right.baseOf .executable + offset) code)).run right)) := by
  apply alike.onRange offset code.size (Region.write · code) (·.store offset code)
  · intro region
    rw [region.write_exact, Word.add_sub_base]
  · intro mine theirs equal
    exact congrArg (fun image => (image.1, image.2.store offset.toNat code.bytes)) equal

theorem Alike.synchronize_agrees (alike : left.Alike right) (offset len : UInt64) :
    Agree
      (outcomeOf .executable
        ((perform (.synchronize (left.baseOf .executable + offset) len)).run left))
      (outcomeOf .executable
        ((perform (.synchronize (right.baseOf .executable + offset) len)).run right)) := by
  apply alike.onRange offset len (Region.synchronize · len) id
  · intro region
    exact region.synchronize_exact _ len
  · intro mine theirs equal
    exact equal

theorem Alike.counterpart_agrees (alike : left.Alike right) (offset : UInt64) :
    Agree
      (outcomeOf .writable
        ((perform (.counterpart (left.baseOf .executable + offset))).run left))
      (outcomeOf .writable
        ((perform (.counterpart (right.baseOf .executable + offset))).run right)) := by
  rcases alike.region_cases with ⟨missing, absent⟩ | ⟨mine, theirs, owned, found, equal⟩
  · simp only [perform, EStateM.run_bind, counterpart_missing missing, counterpart_missing absent]
    exact ⟨rfl, alike⟩
  · have sized : mine.size = theirs.size := congrArg Prod.fst equal
    rw [baseOf_owned owned, baseOf_owned found]
    by_cases inside : offset < mine.size
    · have here : (counterpart (mine.base .executable + offset)).run left =
          .ok (mine.base .writable + offset) left :=
        counterpart_found owned (Region.across_pointer inside)
      rw [sized] at inside
      have there : (counterpart (theirs.base .executable + offset)).run right =
          .ok (theirs.base .writable + offset) right :=
        counterpart_found found (Region.across_pointer inside)
      simp only [perform, EStateM.run_bind, here, there, EStateM.run_pure, outcomeOf,
        baseOf_owned owned, baseOf_owned found, Word.add_sub_base]
      exact ⟨rfl, alike⟩
    · have here := counterpart_refused owned (Region.across_beyond inside)
      rw [sized] at inside
      have there := counterpart_refused found (Region.across_beyond inside)
      simp only [perform, EStateM.run_bind, here, there, outcomeOf, Fault.relativeTo,
        baseOf_owned owned, baseOf_owned found, Word.add_sub_base]
      exact ⟨rfl, alike⟩

theorem Alike.establishSized_agrees (alike : left.Alike right) {placement elsewhere : Placement}
    {size : UInt64} (verdicts : placement.verdicts size = elsewhere.verdicts size) :
    Agree (outcomeOf .executable ((perform (.establishSized placement size)).run left))
      (outcomeOf .executable ((perform (.establishSized elsewhere size)).run right)) := by
  rcases Slot.fill_alike alike.regions verdicts with
    ⟨fault, missing, absent, failed, refused⟩ | ⟨next, after, filled, done, equal⟩
  · have here : (onSlot (Slot.fill placement size)).run left = .error fault left :=
      onSlot_error failed
    have there : (onSlot (Slot.fill elsewhere size)).run right = .error fault right :=
      onSlot_error refused
    simp only [perform, establishSized, EStateM.run_bind, here, there]
    exact ⟨by simp only [outcomeOf, baseOf_missing missing, baseOf_missing absent], alike⟩
  · -- The gates move here, each in its own way, and neither outcome nor image shows it.
    simp only [perform, establishSized, EStateM.run_bind, onSlot_ok filled, onSlot_ok done,
      activate_exact, EStateM.run_pure]
    exact ⟨rfl, alike.configured, equal, alike.cursor⟩

theorem Alike.renew_agrees (alike : left.Alike right) {placement elsewhere : Placement}
    (verdicts : placement.verdicts = elsewhere.verdicts) :
    Agree (outcomeOf .executable ((perform (.renew placement)).run left))
      (outcomeOf .executable ((perform (.renew elsewhere)).run right)) := by
  have sized : right.slot.size?.getD right.settings.regionSize =
      left.slot.size?.getD left.settings.regionSize := by
    rw [alike.configured, alike.size]
  let size := left.slot.size?.getD left.settings.regionSize
  let cleared : Session H := { left with slot := .empty, cursor := .zero }
  let emptied : Session K := { right with slot := .empty, cursor := .zero }
  have here : (renew placement).run left = (onSlot (Slot.fill placement size)).run cleared := rfl
  have there : (renew elsewhere).run right = (onSlot (Slot.fill elsewhere size)).run emptied := by
    simp only [size, ← sized]
    rfl
  simp only [perform, EStateM.run_bind, here, there]
  have blank : Slot.empty.region.map Region.image = Slot.empty.region.map Region.image := rfl
  rcases Slot.fill_alike blank (congrFun verdicts size) with
    ⟨fault, _, _, failed, refused⟩ | ⟨next, after, filled, done, equal⟩
  · have lost : (onSlot (Slot.fill placement size)).run cleared = .error fault cleared :=
      onSlot_error failed
    have gone : (onSlot (Slot.fill elsewhere size)).run emptied = .error fault emptied :=
      onSlot_error refused
    simp only [lost, gone]
    exact ⟨rfl, alike.configured, rfl, rfl⟩
  · have kept : (onSlot (Slot.fill placement size)).run cleared = .ok () { cleared with slot := next } :=
      onSlot_ok filled
    have made : (onSlot (Slot.fill elsewhere size)).run emptied = .ok () { emptied with slot := after } :=
      onSlot_ok done
    simp only [kept, made]
    exact ⟨rfl, alike.configured, equal, rfl⟩

theorem Alike.release_agrees (alike : left.Alike right) :
    Agree (outcomeOf .executable ((perform .release).run left))
      (outcomeOf .executable ((perform .release).run right)) := by
  have cursors : (if left.isAvailable then Cursor.zero else left.cursor) =
      if right.isAvailable then Cursor.zero else right.cursor := by
    rw [alike.available, alike.cursor]
  simp only [perform, EStateM.run_bind, release_exact, EStateM.run_pure]
  exact ⟨rfl, alike.configured, rfl, cursors⟩

end Steps

end Answers

end Session
end TwinView
