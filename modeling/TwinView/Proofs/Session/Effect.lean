import TwinView.Proofs.Memory.Grant
import TwinView.Proofs.Memory.Making
import TwinView.Proofs.Memory.Range
import TwinView.Session

/-!
Everything that a step of a session can do. A step that fails changes nothing, unless it renews the region.
That emitting is no exception is the point of this module: what the cursor has granted is accepted by the
checks that follow, so code that found room is stored.
-/

namespace TwinView.Session

open Activation (Gate Host)

variable {H : Type}

section Lifting

variable {α : Type} {session : Session H} {answer : α} {fault : Fault}

theorem onSlot_ok {operation : EStateM Fault Slot α} {slot : Slot}
    (done : operation session.slot = .ok answer slot) :
    (onSlot operation).run session = .ok answer { session with slot := slot } := by
  simp only [EStateM.run, onSlot, done]

theorem onSlot_error {operation : EStateM Fault Slot α} {slot : Slot}
    (failed : operation session.slot = .error fault slot) :
    (onSlot operation).run session = .error fault { session with slot := slot } := by
  simp only [EStateM.run, onSlot, failed]

theorem onCursor_ok {operation : Slot → EStateM Fault Cursor α} {cursor : Cursor}
    (done : operation session.slot session.cursor = .ok answer cursor) :
    (onCursor operation).run session = .ok answer { session with cursor := cursor } := by
  simp only [EStateM.run, onCursor, done]

theorem onCursor_error {operation : Slot → EStateM Fault Cursor α} {cursor : Cursor}
    (failed : operation session.slot session.cursor = .error fault cursor) :
    (onCursor operation).run session = .error fault { session with cursor := cursor } := by
  simp only [EStateM.run, onCursor, failed]

end Lifting

theorem reserve_cases (session : Session H) (len align : UInt64) :
    (∃ fault, (reserve len align).run session = .error fault session ∧
      Cursor.Refuses session.slot len align session.cursor fault) ∨
      ∃ region exec cursor,
        Cursor.Grants session.slot len align session.cursor region exec cursor ∧
        (reserve len align).run session = .ok exec { session with cursor := cursor } := by
  rcases Cursor.reserve_cases session.slot len align session.cursor with
    ⟨fault, failed, refuses⟩ | ⟨region, exec, cursor, done, grants⟩
  · exact Or.inl ⟨fault, onCursor_error failed, refuses⟩
  · exact Or.inr ⟨region, exec, cursor, grants, onCursor_ok done⟩

/-- The session with the code stored at an executable address of its region. -/
def storing (session : Session H) (region : Region) (exec : UInt64) (code : Code) : Session H :=
  { session with slot := ⟨some (region.store (exec - region.base .executable) code)⟩ }

section Regions

variable {session : Session H} {region : Region} {operation : EStateM Fault Region Unit}

theorem onRegion_ok {next : Region} (owned : session.slot.region = some region)
    (done : operation region = .ok () next) :
    (onSlot (Slot.onRegion operation)).run session = .ok () { session with slot := ⟨some next⟩ } := by
  rcases session with ⟨settings, ⟨content⟩, cursor, gate⟩
  cases owned
  exact onSlot_ok (by simp only [Slot.onRegion, done])

theorem onRegion_refused {fault : Fault} (owned : session.slot.region = some region)
    (failed : operation region = .error fault region) :
    (onSlot (Slot.onRegion operation)).run session = .error fault session := by
  rcases session with ⟨settings, ⟨content⟩, cursor, gate⟩
  cases owned
  exact onSlot_error (by simp only [Slot.onRegion, failed])

theorem onRegion_missing (missing : session.slot.region = none) :
    (onSlot (Slot.onRegion operation)).run session = .error .noRegion session := by
  rcases session with ⟨settings, ⟨content⟩, cursor, gate⟩
  cases missing
  exact onSlot_error rfl

end Regions

theorem write_cases (session : Session H) (exec : UInt64) (code : Code) :
    (∃ fault, (write exec code).run session = .error fault session) ∨
      ∃ region, session.slot.region = some region ∧
        (write exec code).run session = .ok () (session.storing region exec code) := by
  cases owned : session.slot.region with
  | none => exact Or.inl ⟨_, onRegion_missing owned⟩
  | some region =>
      have written := region.write_exact exec code
      split at written
      · exact Or.inr ⟨region, rfl, onRegion_ok owned written⟩
      · exact Or.inl ⟨_, onRegion_refused owned written⟩

theorem synchronize_cases (session : Session H) (exec len : UInt64) :
    (∃ fault, (synchronize exec len).run session = .error fault session) ∨
      (synchronize exec len).run session = .ok () session := by
  cases owned : session.slot.region with
  | none => exact Or.inl ⟨_, onRegion_missing owned⟩
  | some region =>
      have coherent := region.synchronize_exact exec len
      split at coherent
      · refine Or.inr ((onRegion_ok owned coherent).trans ?_)
        rw [← owned]
      · exact Or.inl ⟨_, onRegion_refused owned coherent⟩

theorem counterpart_cases (session : Session H) (exec : UInt64) :
    (∃ fault, (counterpart exec).run session = .error fault session) ∨
      ∃ address, (counterpart exec).run session = .ok address session := by
  cases found : session.slot.counterpart .executable exec with
  | error fault => exact Or.inl ⟨fault, by simp [counterpart, found]; rfl⟩
  | ok address => exact Or.inr ⟨address, by simp [counterpart, found]⟩

theorem emit_cases (session : Session H) (code : Code) (align : UInt64) :
    (∃ fault, Cursor.Refuses session.slot code.size align session.cursor fault ∧
      (reserve code.size align).run session = .error fault session ∧
      (emit code align).run session = .error fault session) ∨
      ∃ region exec cursor,
        Cursor.Grants session.slot code.size align session.cursor region exec cursor ∧
        (reserve code.size align).run session = .ok exec { session with cursor := cursor } ∧
        (emit code align).run session =
          .ok exec (storing { session with cursor := cursor } region exec code) := by
  rcases session.reserve_cases code.size align with
    ⟨fault, failed, refuses⟩ | ⟨region, exec, cursor, grants, reserved⟩
  · exact Or.inl ⟨fault, refuses, failed, by simp only [emit, EStateM.run_bind, failed]⟩
  · let moved : Session H := { session with cursor := cursor }
    have owned : moved.slot.region = some region := grants.owned
    have stored : (write exec code).run moved = .ok () (moved.storing region exec code) :=
      onRegion_ok owned ((region.write_exact exec code).trans (if_pos grants.covers))
    -- Storing leaves the views as they are, so what covered the range before still does.
    have coherent : (synchronize exec code.size).run (moved.storing region exec code) =
        .ok () (moved.storing region exec code) :=
      onRegion_ok rfl ((Region.synchronize_exact _ exec code.size).trans (if_pos grants.covers))
    refine Or.inr ⟨region, exec, cursor, grants, reserved, ?_⟩
    simp only [emit, EStateM.run_bind, reserved, moved, stored, coherent, EStateM.run_pure]

theorem renew_cases (session : Session H) (placement : Placement) :
    (∃ fault, (renew placement).run session =
      .error fault { session with slot := .empty, cursor := .zero }) ∨
      ∃ region, Region.Made (session.slot.size?.getD session.settings.regionSize) region ∧
        (renew placement).run session =
          .ok () { session with slot := ⟨some region⟩, cursor := .zero } := by
  let size := session.slot.size?.getD session.settings.regionSize
  let cleared : Session H := { session with slot := .empty, cursor := .zero }
  have filling : (renew placement).run session =
      (onSlot (Slot.fill placement size)).run cleared := rfl
  rw [filling]
  rcases Slot.fill_empty_cases placement size with ⟨fault, failed⟩ | ⟨region, made, filled⟩
  · exact Or.inl ⟨fault, onSlot_error failed⟩
  · exact Or.inr ⟨region, made, onSlot_ok filled⟩

theorem release_exact (session : Session H) :
    release.run session = .ok ()
      { session with
        slot := .empty
        cursor := if session.isAvailable then .zero else session.cursor } := by
  rcases session with ⟨settings, ⟨_ | region⟩, cursor, gate⟩ <;> rfl

/-- Giving up a region rewinds the cursor. Where there is none, the cursor is not touched, and need not be if
it stands at zero then. -/
theorem released_cursor {session : Session H}
    (unused : session.slot.region = none → session.cursor = .zero) :
    (if session.isAvailable then Cursor.zero else session.cursor) = .zero := by
  cases owned : session.slot.region with
  | none =>
      rw [unused owned]
      exact ite_self _
  | some region => simp [isAvailable, Slot.isFilled, owned]

section Gates

variable [Host H]

/-- The gate after a region has been established. -/
def activated (session : Session H) : Gate H :=
  match session.settings.profile with
  | .immediate => session.gate.notify
  | .deferred => session.gate.check.2

theorem activate_exact (session : Session H) :
    activate.run session = .ok () { session with gate := session.activated } := by
  rcases session with ⟨⟨size, _ | _, timeout⟩, slot, cursor, gate⟩ <;> rfl

theorem establishSized_cases (session : Session H) (placement : Placement) (size : UInt64) :
    (∃ fault, (establishSized placement size).run session = .error fault session) ∨
      (session.slot.isFilled = true ∧ (establishSized placement size).run session =
        .ok () { session with gate := session.activated }) ∨
      ∃ region, session.slot.region = none ∧ Region.Made size region ∧
        (establishSized placement size).run session =
          .ok () { session with slot := ⟨some region⟩, gate := session.activated } := by
  rcases session with ⟨settings, ⟨_ | region⟩, cursor, gate⟩
  · let before : Session H := ⟨settings, ⟨none⟩, cursor, gate⟩
    rcases Slot.fill_empty_cases placement size with ⟨fault, failed⟩ | ⟨region, made, filled⟩
    · have refused : (onSlot (Slot.fill placement size)).run before = .error fault before :=
        onSlot_error failed
      exact Or.inl ⟨fault, by simp only [establishSized, EStateM.run_bind, before, refused]⟩
    · have there : (onSlot (Slot.fill placement size)).run before =
          .ok () { before with slot := ⟨some region⟩ } := onSlot_ok filled
      refine Or.inr (Or.inr ⟨region, rfl, made, ?_⟩)
      simp only [establishSized, EStateM.run_bind, before, there]
      exact activate_exact _
  · let before : Session H := ⟨settings, ⟨some region⟩, cursor, gate⟩
    have kept : (onSlot (Slot.fill placement size)).run before = .ok () before :=
      onSlot_ok (Slot.fill_filled placement size region)
    refine Or.inr (Or.inl ⟨rfl, ?_⟩)
    simp only [establishSized, EStateM.run_bind, before, kept]
    exact activate_exact _

/-- The size that a step asks for, if it is to establish a region. -/
def Step.establishedSize (settings : Settings) : Step H → Option UInt64
  | .establish _ => some settings.regionSize
  | .establishSized _ size => some size
  | _ => none

def Step.isRenewal : Step H → Bool
  | .renew _ => true
  | _ => false

/-- What a step may come to, with the session as it is then. -/
inductive Effect (session : Session H) :
    Step H → EStateM.Result Fault (Session H) Answer → Prop where
  | failed {step : Step H} (fault : Fault) :
      step.isRenewal = false → Effect session step (.error fault session)
  | kept {step : Step H} {size : UInt64} :
      step.establishedSize session.settings = some size → session.slot.isFilled = true →
        Effect session step (.ok .done { session with gate := session.activated })
  | established {step : Step H} {size : UInt64} {region : Region} :
      step.establishedSize session.settings = some size → session.slot.region = none →
        Region.Made size region →
          Effect session step
            (.ok .done { session with slot := ⟨some region⟩, gate := session.activated })
  | reserved {len align exec : UInt64} {region : Region} {cursor : Cursor} :
      Cursor.Grants session.slot len align session.cursor region exec cursor →
        Effect session (.reserve len align) (.ok (.address exec) { session with cursor := cursor })
  | emitted {code : Code} {align exec : UInt64} {region : Region} {cursor : Cursor} :
      Cursor.Grants session.slot code.size align session.cursor region exec cursor →
        Effect session (.emit code align)
          (.ok (.address exec) (storing { session with cursor := cursor } region exec code))
  | written {exec : UInt64} {code : Code} {region : Region} :
      session.slot.region = some region →
        Effect session (.write exec code) (.ok .done (session.storing region exec code))
  | located (exec address : UInt64) :
      Effect session (.counterpart exec) (.ok (.address address) session)
  | coherent (exec len : UInt64) : Effect session (.synchronize exec len) (.ok .done session)
  | lost (placement : Placement) (fault : Fault) :
      Effect session (.renew placement)
        (.error fault { session with slot := .empty, cursor := .zero })
  | renewed (placement : Placement) {region : Region} :
      Region.Made (session.slot.size?.getD session.settings.regionSize) region →
        Effect session (.renew placement)
          (.ok .done { session with slot := ⟨some region⟩, cursor := .zero })
  | released :
      Effect session .release (.ok .done
        { session with
          slot := .empty
          cursor := if session.isAvailable then .zero else session.cursor })
  | gate (step : Gate.Step H) :
      Effect session (.gate step) (.ok (.gate (session.gate.perform step).1)
        { session with gate := (session.gate.perform step).2 })

theorem establishSized_effect (session : Session H) (placement : Placement) {size : UInt64}
    {step : Step H} (sized : step.establishedSize session.settings = some size)
    (kept : step.isRenewal = false) :
    Effect session step ((perform (.establishSized placement size)).run session) := by
  rcases session.establishSized_cases placement size with
    ⟨fault, failed⟩ | ⟨filled, done⟩ | ⟨region, empty, made, there⟩
  · simp only [perform, EStateM.run_bind, failed]
    exact Effect.failed fault kept
  · simp only [perform, EStateM.run_bind, done]
    exact Effect.kept sized filled
  · simp only [perform, EStateM.run_bind, there]
    exact Effect.established sized empty made

theorem perform_effect (session : Session H) (step : Step H) :
    Effect session step ((perform step).run session) := by
  cases step with
  | establish placement =>
      have configured : (perform (.establish placement)).run session =
          (perform (.establishSized placement session.settings.regionSize)).run session := rfl
      rw [configured]
      exact session.establishSized_effect placement rfl rfl
  | establishSized placement size => exact session.establishSized_effect placement rfl rfl
  | reserve len align =>
      rcases session.reserve_cases len align with
        ⟨fault, failed, _⟩ | ⟨region, exec, cursor, grants, reserved⟩
      · simp only [perform, EStateM.run_bind, failed]
        exact Effect.failed fault rfl
      · simp only [perform, EStateM.run_bind, reserved]
        exact Effect.reserved grants
  | emit code align =>
      rcases session.emit_cases code align with
        ⟨fault, _, _, failed⟩ | ⟨region, exec, cursor, grants, _, emitted⟩
      · simp only [perform, EStateM.run_bind, failed]
        exact Effect.failed fault rfl
      · simp only [perform, EStateM.run_bind, emitted]
        exact Effect.emitted grants
  | write exec code =>
      rcases session.write_cases exec code with ⟨fault, failed⟩ | ⟨region, owned, written⟩
      · simp only [perform, EStateM.run_bind, failed]
        exact Effect.failed fault rfl
      · simp only [perform, EStateM.run_bind, written]
        exact Effect.written owned
  | counterpart exec =>
      rcases session.counterpart_cases exec with ⟨fault, failed⟩ | ⟨address, found⟩
      · simp only [perform, EStateM.run_bind, failed]
        exact Effect.failed fault rfl
      · simp only [perform, EStateM.run_bind, found]
        exact Effect.located exec address
  | synchronize exec len =>
      rcases session.synchronize_cases exec len with ⟨fault, failed⟩ | done
      · simp only [perform, EStateM.run_bind, failed]
        exact Effect.failed fault rfl
      · simp only [perform, EStateM.run_bind, done]
        exact Effect.coherent exec len
  | renew placement =>
      rcases session.renew_cases placement with ⟨fault, failed⟩ | ⟨region, made, renewed⟩
      · simp only [perform, EStateM.run_bind, failed]
        exact Effect.lost placement fault
      · simp only [perform, EStateM.run_bind, renewed]
        exact Effect.renewed placement made
  | release =>
      simp only [perform, EStateM.run_bind, release_exact]
      exact Effect.released
  | gate step =>
      rcases session with ⟨settings, slot, cursor, gate⟩
      exact Effect.gate step

end Gates

end TwinView.Session
