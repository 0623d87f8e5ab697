import TwinView.Proofs.Activation.Opening
import TwinView.Proofs.Session.Effect

/-!
With the immediate profile, establishing a region opens the gate, and nothing but a failure by hand closes it
again. Renewing makes a region too, but it leaves the gate alone. So a region may be there while native code
may not run: exactly if it was renewed and nothing has opened the gate since the start.
-/

namespace TwinView.Session

open Activation (Gate Host SteeredHost)

variable {H : Type}

namespace Step

/-- Whether the step fails the gate by hand. -/
def isGateFailure : Step H → Bool
  | .gate step => step.isFailure
  | _ => false

/-- Whether a step with this answer has opened the gate, if the profile is immediate. -/
def opens : Step H → Answer → Bool
  | .establish _, _ => true
  | .establishSized _ _, _ => true
  | .gate step, .gate answer => step.opens answer
  | _, _ => false

/-- Whether the region that is there after the step was renewed, given whether the one before was. -/
def renews (renewed : Bool) : Step H → Bool
  | .renew _ => true
  | .release => false
  | _ => renewed

variable {settings : Settings} {size : UInt64} {step : Step H}

theorem opens_established (sized : step.establishedSize settings = some size) (answer : Answer) :
    step.opens answer = true := by
  cases step with
  | establish placement => rfl
  | establishSized placement size => rfl
  | _ => cases sized

theorem renews_established (sized : step.establishedSize settings = some size) (renewed : Bool) :
    step.renews renewed = renewed := by
  cases step with
  | establish placement => rfl
  | establishSized placement size => rfl
  | _ => cases sized

end Step

/-- A session with what has become of it: whether the region that is there was renewed, and whether anything
has opened the gate. -/
structure Course (H : Type) where
  session : Session H
  renewed : Bool
  opened : Bool

namespace Course

def start (settings : Settings) (host : H) : Course H :=
  ⟨Session.start settings host, false, false⟩

structure Sound (course : Course H) : Prop where
  immediate : course.session.settings.profile = .immediate
  opened : course.session.gate.isEnabled = course.opened
  renewed : course.renewed = true → course.session.isAvailable = true
  origin : course.session.isAvailable = true → course.renewed = true ∨ course.opened = true

theorem start_sound {settings : Settings} (host : H) (immediate : settings.profile = .immediate) :
    (start settings host).Sound := by
  constructor
  · exact immediate
  · rfl
  · intro renewed
    cases renewed
  · intro available
    cases available

section Preservation

variable {session next : Session H} {renewed renewedNow opened : Bool}

/-- While the gate stays as it was, only what is said of the region has to be shown anew. -/
theorem Sound.moved (sound : Sound ⟨session, renewed, opened⟩)
    (settings : next.settings = session.settings) (gate : next.gate = session.gate)
    (there : renewedNow = true → next.isAvailable = true)
    (origin : next.isAvailable = true → renewedNow = true ∨ opened = true) :
    Sound ⟨next, renewedNow, opened⟩ := by
  constructor
  · rw [settings]
    exact sound.immediate
  · rw [gate]
    exact sound.opened
  · exact there
  · exact origin

theorem Sound.carried (sound : Sound ⟨session, renewed, opened⟩)
    (settings : next.settings = session.settings) (gate : next.gate = session.gate)
    (available : next.isAvailable = session.isAvailable) :
    Sound ⟨next, renewed, opened || false⟩ := by
  rw [Bool.or_false]
  apply sound.moved settings gate
  · rw [available]
    exact sound.renewed
  · rw [available]
    exact sound.origin

theorem Sound.gone (sound : Sound ⟨session, renewed, opened⟩)
    (settings : next.settings = session.settings) (gate : next.gate = session.gate)
    (missing : next.isAvailable = false) : Sound ⟨next, false, opened⟩ := by
  apply sound.moved settings gate
  · intro renewed
    cases renewed
  · intro available
    rw [missing] at available
    cases available

theorem Sound.renewal (sound : Sound ⟨session, renewed, opened⟩)
    (settings : next.settings = session.settings) (gate : next.gate = session.gate)
    (available : next.isAvailable = true) : Sound ⟨next, true, opened⟩ := by
  apply sound.moved settings gate
  · intro _
    exact available
  · intro _
    exact Or.inl rfl

/-- A region is there, and with it the gate has been opened. -/
theorem Sound.established [Host H] (sound : Sound ⟨session, renewed, opened⟩)
    (settings : next.settings = session.settings) (gate : next.gate = session.activated)
    (available : next.isAvailable = true) : Sound ⟨next, renewed, opened || true⟩ := by
  have immediate : session.settings.profile = .immediate := sound.immediate
  rw [Bool.or_true]
  constructor
  · rw [settings]
    exact immediate
  · rw [gate, activated, immediate]
    rfl
  · intro _
    exact available
  · intro _
    exact Or.inr rfl

end Preservation

variable [Host H]

def after (course : Course H) (step : Step H) : Course H :=
  match (perform step).run course.session with
  | .ok answer next => ⟨next, step.renews course.renewed, course.opened || step.opens answer⟩
  | .error _ next => ⟨next, course.renewed && !step.isRenewal, course.opened⟩

def run (course : Course H) (steps : List (Step H)) : Course H := steps.foldl after course

theorem after_sound (course : Course H) {step : Step H} (unfailed : step.isGateFailure = false)
    (sound : course.Sound) : (course.after step).Sound := by
  obtain ⟨session, renewed, opened⟩ := course
  have effect := perform_effect session step
  unfold after
  dsimp only
  generalize (perform step).run session = result at effect ⊢
  cases effect with
  | failed fault kept =>
      simpa only [kept, Bool.not_false, Bool.and_true] using sound
  | kept sized filled =>
      simp only [Step.opens_established sized, Step.renews_established sized]
      exact sound.established rfl rfl filled
  | established sized missing made =>
      simp only [Step.opens_established sized, Step.renews_established sized]
      exact sound.established rfl rfl rfl
  | reserved grants => exact sound.carried rfl rfl rfl
  | emitted grants =>
      have available : session.isAvailable = true := by
        simp only [isAvailable, Slot.isFilled, grants.owned, Option.isSome_some]
      exact sound.carried rfl rfl available.symm
  | written owned =>
      have available : session.isAvailable = true := by
        simp only [isAvailable, Slot.isFilled, owned, Option.isSome_some]
      exact sound.carried rfl rfl available.symm
  | located | coherent => exact sound.carried rfl rfl rfl
  | lost =>
      simp only [Step.isRenewal, Bool.not_true, Bool.and_false]
      exact sound.gone rfl rfl rfl
  | renewed placement made =>
      simp only [Step.renews, Step.opens, Bool.or_false]
      exact sound.renewal rfl rfl rfl
  | released =>
      simp only [Step.renews, Step.opens, Bool.or_false]
      exact sound.gone rfl rfl rfl
  | gate step =>
      have opening := session.gate.perform_isEnabled unfailed
      constructor
      · exact sound.immediate
      · -- Only here can the gate move without the region, and then the course has noted it.
        exact opening.trans (congrArg (· || _) sound.opened)
      · exact sound.renewed
      · intro available
        rcases sound.origin available with renewed | opened
        · exact Or.inl renewed
        · exact Or.inr (Bool.or_eq_true_iff.mpr (Or.inl opened))

theorem run_sound (course : Course H) {steps : List (Step H)}
    (unfailed : ∀ step ∈ steps, step.isGateFailure = false) (sound : course.Sound) :
    (course.run steps).Sound := by
  induction steps generalizing course with
  | nil => exact sound
  | cons step rest ih =>
      apply ih (course.after step)
      · intro other member
        exact unfailed other (List.mem_cons_of_mem _ member)
      · exact course.after_sound (unfailed step List.mem_cons_self) sound

end Course

/-- With the immediate profile, a region is there that may not be used exactly if it was renewed and the gate
has never been opened. -/
theorem unusable_iff_renewed_unopened [Host H] (settings : Settings) (host : H)
    (steps : List (Step H)) (immediate : settings.profile = .immediate)
    (unfailed : ∀ step ∈ steps, step.isGateFailure = false) :
    let course := (Course.start settings host).run steps
    course.session.isAvailable = true ∧ course.session.isEnabled = false ↔
      course.renewed = true ∧ course.opened = false := by
  intro course
  have sound := (Course.start settings host).run_sound unfailed (Course.start_sound host immediate)
  have opened : course.session.gate.isEnabled = course.opened := sound.opened
  rw [isEnabled, opened]
  constructor
  · rintro ⟨available, unusable⟩
    have shut : course.opened = false := by simpa only [available, Bool.true_and] using unusable
    rcases sound.origin available with renewed | opened
    · exact ⟨renewed, shut⟩
    · exact absurd opened (Bool.eq_false_iff.mp shut)
  · rintro ⟨renewed, shut⟩
    exact ⟨sound.renewed renewed, by rw [shut, Bool.and_false]⟩

/-- A session that starts by renewing has a region that may not be used. -/
theorem first_renewal_unusable :
    let steps : List (Step SteeredHost) := [.renew (.addressSpace 3 0x10000 0x80000)]
    let course := (Course.start (Settings.immediate.resized 4096) SteeredHost.fresh).run steps
    (∀ step ∈ steps, step.isGateFailure = false) ∧
      course.session.isAvailable = true ∧ course.session.isEnabled = false := by
  intro steps course
  have unfailed : ∀ step ∈ steps, step.isGateFailure = false := by decide
  refine ⟨unfailed, ?_⟩
  exact (unusable_iff_renewed_unopened _ _ steps rfl unfailed).mpr ⟨rfl, rfl⟩

end TwinView.Session
