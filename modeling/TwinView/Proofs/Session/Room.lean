import TwinView.Proofs.Session.Grounds

/-!
How much room a session has. Three operations give up the region or make one, and only some of them rewind the
cursor, yet the cursor is always within the region that is there, and at zero while there is none: whatever
leaves a session without a region has rewound the cursor, and nothing is handed out before the next one. So
what is used and what remains always make up the region, and after a renewal the first range starts at its
base.
-/

namespace TwinView.Session

open Activation (Host)

variable {H : Type}

/-- Without a region nothing is handed out. With one, the cursor stands within it. -/
def InStep (session : Session H) : Prop :=
  match session.slot.region with
  | none => session.cursor = .zero
  | some region => session.cursor.used ≤ region.size

theorem start_inStep (settings : Settings) (host : H) : (start settings host).InStep := rfl

section Bounds

variable {session : Session H} {region : Region}

theorem InStep.absent (inStep : session.InStep) (missing : session.slot.region = none) :
    session.cursor = .zero := by
  simpa only [InStep, missing] using inStep

theorem InStep.present (inStep : session.InStep) (owned : session.slot.region = some region) :
    session.cursor.used ≤ region.size := by
  simpa only [InStep, owned] using inStep

theorem InStep.remaining_absent (missing : session.slot.region = none) : session.remaining = 0 := by
  simp only [remaining, Cursor.remaining, Slot.size?, missing, Option.map_none]

theorem InStep.used_add_remaining (inStep : session.InStep)
    (owned : session.slot.region = some region) :
    session.used.toNat + session.remaining.toNat = region.size.toNat := by
  have within := UInt64.le_iff_toNat_le.mp (inStep.present owned)
  have left : session.remaining = Word.monus region.size session.used := by
    simp only [remaining, Cursor.remaining, Slot.size?, owned, Option.map_some, Cursor.left, used]
  rw [left, Word.monus_toNat, used]
  omega

end Bounds

variable [Host H]

/-- What every step keeps, every run keeps. -/
theorem run_keeps (Holds : Session H → Prop)
    (kept : ∀ session step, Holds session → Holds (session.after step))
    (session : Session H) (steps : List (Step H)) (holds : Holds session) : Holds (session.run steps) := by
  induction steps generalizing session with
  | nil => exact holds
  | cons step rest ih => exact ih (session.after step) (kept session step holds)

theorem after_inStep (session : Session H) (step : Step H) (inStep : session.InStep) :
    (session.after step).InStep := by
  have effect := perform_effect session step
  unfold after
  generalize (perform step).run session = result at effect ⊢
  cases effect with
  | failed | kept | located | coherent | gate => exact inStep
  | established sized missing made =>
      -- Nothing rewinds the cursor here. It has stood at zero since the last region went.
      have rewound := inStep.absent missing
      simp only [InStep, rewound]
      exact UInt64.zero_le
  | reserved grants =>
      simp only [InStep, grants.owned]
      exact UInt64.le_iff_toNat_le.mpr grants.inside
  | emitted grants => exact UInt64.le_iff_toNat_le.mpr grants.inside
  | written owned =>
      have within := inStep.present owned
      exact within
  | lost => rfl
  | released => exact released_cursor inStep.absent
  | renewed placement made => exact UInt64.zero_le

theorem run_inStep (session : Session H) (steps : List (Step H)) (inStep : session.InStep) :
    (session.run steps).InStep :=
  run_keeps InStep after_inStep session steps inStep

theorem after_settings (session : Session H) (step : Step H) :
    (session.after step).settings = session.settings := by
  have effect := perform_effect session step
  unfold after
  generalize (perform step).run session = result at effect ⊢
  cases effect <;> rfl

theorem run_settings (session : Session H) (steps : List (Step H)) :
    (session.run steps).settings = session.settings :=
  run_keeps (·.settings = session.settings) (fun next step same => (next.after_settings step).trans same)
    session steps rfl

section Rewound

/-- Whether a step with the given result has taken a range. -/
def Step.takes : Step H → EStateM.Result Fault (Session H) Answer → Bool
  | .reserve _ _, .ok _ _ => true
  | .emit _ _, .ok _ _ => true
  | _, _ => false

/-- No step takes a range. -/
def Untaken (session : Session H) : List (Step H) → Prop
  | [] => True
  | step :: rest =>
      step.takes ((perform step).run session) = false ∧ (session.after step).Untaken rest

variable {session : Session H} {step : Step H}

theorem after_rewound (rewound : session.cursor = .zero)
    (untaken : step.takes ((perform step).run session) = false) :
    (session.after step).cursor = .zero := by
  have effect := perform_effect session step
  unfold after
  generalize (perform step).run session = result at effect untaken ⊢
  cases effect with
  | failed | kept | established | written | located | coherent | gate => exact rewound
  | reserved | emitted => cases untaken
  | lost | renewed => rfl
  | released => exact released_cursor fun _ => rewound

theorem run_rewound {steps : List (Step H)} (rewound : session.cursor = .zero)
    (untaken : session.Untaken steps) : (session.run steps).cursor = .zero := by
  induction steps generalizing session with
  | nil => exact rewound
  | cons step rest ih => exact ih (after_rewound rewound untaken.1) untaken.2

/-- The first range of a region starts where the region does. -/
theorem taken_at_base {exec : UInt64} {moved : Session H} (rewound : session.cursor = .zero)
    (taken : (perform step).run session = .ok (.address exec) moved)
    (takes : step.takes ((perform step).run session) = true) :
    session.slot.base? .executable = some exec := by
  have effect := perform_effect session step
  rw [taken] at effect takes
  suffices granted : ∃ len align region cursor,
      Cursor.Grants session.slot len align session.cursor region exec cursor by
    obtain ⟨len, align, region, cursor, grants⟩ := granted
    have start := grants.start
    have zero : Cursor.zero.used.toNat = 0 := rfl
    rw [rewound, zero, Alignment.ceiling_zero (Alignment.align_pos grants.power)] at start
    have apart : exec - region.base .executable = 0 := UInt64.toNat_inj.mp start
    have same := UInt64.sub_add_cancel exec (region.base .executable)
    rw [apart, UInt64.zero_add] at same
    rw [Slot.base?, grants.owned, Option.map_some, same]
  cases effect with
  | reserved grants => exact ⟨_, _, _, _, grants⟩
  | emitted grants => exact ⟨_, _, _, _, grants⟩
  | located => cases takes

end Rewound

/-- In every run, what is used and what remains make up the region, and both are zero without one. A renewal
that succeeds leaves a blank region of the size of the old one, or of the configured size if there was none,
with nothing used. It leaves the gate alone. The next range to be taken, however it is aligned, then starts
at the base of its region. -/
theorem room_adds_up (settings : Settings) (host : H) (steps : List (Step H)) :
    let session := (start settings host).run steps
    (session.slot.region = none → session.used = 0 ∧ session.remaining = 0) ∧
      (∀ region, session.slot.region = some region →
        session.used.toNat + session.remaining.toNat = region.size.toNat) ∧
      ∀ placement answer next, (perform (.renew placement)).run session = .ok answer next →
        (∃ region, next.slot.region = some region ∧
          region.size = session.slot.size?.getD settings.regionSize ∧
          ∀ view offset, offset < region.size →
            region.load view (region.base view + offset) = some 0) ∧
        next.used = 0 ∧ next.gate = session.gate ∧
        ∀ later step exec moved, next.Untaken later →
          (perform step).run (next.run later) = .ok (.address exec) moved →
          step.takes ((perform step).run (next.run later)) = true →
            (next.run later).slot.base? .executable = some exec := by
  intro session
  have inStep : session.InStep := (start settings host).run_inStep steps (start_inStep settings host)
  have configured : session.settings = settings := (start settings host).run_settings steps
  refine ⟨?_, ?_, ?_⟩
  · intro missing
    exact ⟨congrArg Cursor.used (inStep.absent missing), InStep.remaining_absent missing⟩
  · intro region owned
    exact inStep.used_add_remaining owned
  · intro placement answer next done
    rcases session.renew_cases placement with ⟨fault, lost⟩ | ⟨region, made, renewed⟩
    · simp only [perform, EStateM.run_bind, lost] at done
      cases done
    · simp only [perform, EStateM.run_bind, renewed, EStateM.run_pure] at done
      cases done
      rw [configured] at made
      refine ⟨⟨region, rfl, made.size_eq, ?_⟩, rfl, rfl, ?_⟩
      · intro view offset inside
        rw [region.load_offset view inside, made.content_eq, Bytes.byteAt_zeros]
      · intro later step exec moved untaken taken takes
        exact taken_at_base (run_rewound rfl untaken) taken takes

end TwinView.Session
