import TwinView.Proofs.Session.Failure
import TwinView.Proofs.Session.Room
import TwinView.Proofs.Settings.Bounds

/-!
Sizes for which nothing but the host stands in the way of a region. Making a region takes four calls, and the first
that the host refuses is what is reported; the size itself is at fault only if it is zero or beyond what a file can
have. A document gives no such size, and a region that has been made has none. So a session with the settings of a
document never hears that its size is bad, however often its region is renewed.
-/

namespace TwinView

namespace Region

theorem Made.creatable {size : UInt64} {region : Region} (made : Made size region) : Creatable region.size := by
  rw [made.size_eq]
  exact ⟨made.nonempty, made.limited⟩

/-- Creating a region of such a size fails exactly if the host refuses a call, and says which. -/
theorem Creatable.fails_iff {size : UInt64} (creatable : Creatable size) (answers : HostAnswers) (fault : Fault) :
    ofAnswers answers size = .error fault ↔ answers.refusal? = some fault :=
  ofAnswers_error_iff (creatable.not_illSized answers)

end Region

namespace Session

open Activation (Host)

variable {H : Type}

/-- Filling the slot of a session, told with what making a region comes to. -/
theorem fill_cases (session : Session H) (placement : Placement) (size : UInt64) :
    (session.slot.region ≠ none ∧ (onSlot (Slot.fill placement size)).run session = .ok () session) ∨
      session.slot.region = none ∧
        ((∃ fault, Region.ofAnswers (placement size) size = .error fault ∧
          (onSlot (Slot.fill placement size)).run session = .error fault session) ∨
        ∃ region, Region.ofAnswers (placement size) size = .ok region ∧
          (onSlot (Slot.fill placement size)).run session = .ok () { session with slot := ⟨some region⟩ }) := by
  rcases session with ⟨settings, ⟨_ | region⟩, cursor, gate⟩
  · right
    constructor
    · rfl
    · cases made : Region.ofAnswers (placement size) size with
      | error fault => exact Or.inl ⟨fault, rfl, onSlot_error (Slot.fill_refused made)⟩
      | ok region => exact Or.inr ⟨region, rfl, onSlot_ok (Slot.fill_made made)⟩
  · left
    exact ⟨Option.some_ne_none region, onSlot_ok (Slot.fill_filled placement size region)⟩

/-- The size of the region that a renewal makes. -/
def renewedSize (session : Session H) : UInt64 := session.slot.size?.getD session.settings.regionSize

/-- A region that is there could be made. -/
def Sized (session : Session H) : Prop :=
  ∀ region, session.slot.region = some region → Region.Creatable region.size

theorem Sized.renewable {session : Session H} (sized : session.Sized)
    (configured : Region.Creatable session.settings.regionSize) : Region.Creatable session.renewedSize := by
  unfold renewedSize Slot.size?
  cases owned : session.slot.region with
  | none => exact configured
  | some region => exact sized region owned

variable [Host H]

theorem establishSized_failure_iff (session : Session H) (placement : Placement) (size : UInt64)
    (fault : Fault) :
    session.failure (.establishSized placement size) = some fault ↔
      session.slot.region = none ∧ Region.ofAnswers (placement size) size = .error fault := by
  rcases session.fill_cases placement size with
    ⟨present, kept⟩ | ⟨missing, ⟨reported, refused, failed⟩ | ⟨region, made, filled⟩⟩
  · simp only [failure, perform, establishSized, EStateM.run_bind, kept, activate_exact, EStateM.run_pure, faultOf]
    simp [present]
  · simp only [failure, perform, establishSized, EStateM.run_bind, failed, faultOf]
    simp [missing, refused]
  · simp only [failure, perform, establishSized, EStateM.run_bind, filled, activate_exact, EStateM.run_pure, faultOf]
    simp [missing, made]

theorem establish_failure_iff (session : Session H) (placement : Placement) (fault : Fault) :
    session.failure (.establish placement) = some fault ↔
      session.slot.region = none ∧
        Region.ofAnswers (placement session.settings.regionSize) session.settings.regionSize = .error fault := by
  have configured : (perform (.establish placement)).run session =
      (perform (.establishSized placement session.settings.regionSize)).run session := rfl
  rw [failure, configured]
  exact session.establishSized_failure_iff placement session.settings.regionSize fault

theorem renew_failure_iff (session : Session H) (placement : Placement) (fault : Fault) :
    session.failure (.renew placement) = some fault ↔
      Region.ofAnswers (placement session.renewedSize) session.renewedSize = .error fault := by
  let cleared : Session H := { session with slot := .empty, cursor := .zero }
  have filling : (renew placement).run session =
      (onSlot (Slot.fill placement session.renewedSize)).run cleared := rfl
  rcases cleared.fill_cases placement session.renewedSize with
    ⟨present, _⟩ | ⟨_, ⟨reported, refused, failed⟩ | ⟨region, made, filled⟩⟩
  · exact absurd rfl present
  · simp only [failure, perform, EStateM.run_bind, filling, failed, faultOf]
    simp [refused]
  · simp only [failure, perform, EStateM.run_bind, filling, filled, EStateM.run_pure, faultOf]
    simp [made]

theorem after_sized (session : Session H) (step : Step H) (sized : session.Sized) :
    (session.after step).Sized := by
  have effect := perform_effect session step
  unfold after
  generalize (perform step).run session = result at effect ⊢
  cases effect with
  | failed | kept | reserved | located | coherent | gate => exact sized
  | established _ missing made | renewed placement made =>
      rintro _ ⟨⟩
      exact made.creatable
  | emitted grants =>
      rintro _ ⟨⟩
      have creatable := sized _ grants.owned
      exact creatable
  | written owned =>
      rintro _ ⟨⟩
      have creatable := sized _ owned
      exact creatable
  | lost | released => rintro _ ⟨⟩

/-- Whatever reads documents with signed words for integers: a document gives a size of which there can be a region,
and a timeout that a signed word holds. In every run with such settings, establishing a region fails exactly if
there is none and the host refuses a call for it, and renewing it exactly if the host refuses; what is reported is
the first call that it refuses, and never the size. A mapping at address zero counts as refused. -/
theorem sizes_of_text_creatable {reader : Toml.Reader} (integers : reader.IsSigned) {text : List Char}
    {settings : Settings} (read : Settings.ofTextBy reader text = .ok settings) (host : H) (steps : List (Step H)) (placement : Placement) :
    let session := (start settings host).run steps
    (1 ≤ settings.regionSize.toNat ∧ settings.regionSize.toNat ≤ 0x7FFFFFFFFFFFFFFF) ∧
      (∀ millis, settings.timeoutMillis = some millis → millis.toNat ≤ 0x7FFFFFFFFFFFFFFF) ∧
      (∀ fault, session.failure (.establish placement) = some fault ↔
        session.slot.region = none ∧ (placement settings.regionSize).refusal? = some fault) ∧
      (∀ fault, session.failure (.renew placement) = some fault ↔
        (placement session.renewedSize).refusal? = some fault) ∧
      (session.slot.region = none → session.renewedSize = settings.regionSize) ∧
      ∀ size, session.failure (.establish placement) ≠ some (.badSize size) ∧
        session.failure (.renew placement) ≠ some (.badSize size) := by
  intro session
  obtain ⟨signed, sized⟩ := Settings.ofTextBy_signed integers read
  have configured : session.settings = settings := (start settings host).run_settings steps
  have creatable : Region.Creatable settings.regionSize := ⟨sized, UInt64.lt_iff_toNat_lt.mpr signed.size⟩
  have made : session.Sized := run_keeps Sized after_sized _ steps (by rintro region ⟨⟩)
  have renewable : Region.Creatable session.renewedSize := made.renewable (configured ▸ creatable)
  have established : ∀ fault, session.failure (.establish placement) = some fault ↔
      session.slot.region = none ∧ (placement settings.regionSize).refusal? = some fault := by
    intro fault
    rw [← creatable.fails_iff, ← configured]
    exact session.establish_failure_iff placement fault
  have renewed : ∀ fault, session.failure (.renew placement) = some fault ↔
      (placement session.renewedSize).refusal? = some fault := by
    intro fault
    rw [← renewable.fails_iff]
    exact session.renew_failure_iff placement fault
  constructor
  · have positive : settings.regionSize.toNat ≠ 0 := fun zero => sized (UInt64.toNat_inj.mp zero)
    have small := signed.size
    omega
  · refine ⟨?_, established, renewed, ?_, ?_⟩
    · intro millis kept
      have small := signed.timeout millis kept
      omega
    · intro missing
      simp [renewedSize, Slot.size?, missing, configured]
    · intro size
      constructor
      · intro failed
        exact HostAnswers.refusal_ne_badSize ((established _).mp failed).2 size rfl
      · intro failed
        exact HostAnswers.refusal_ne_badSize ((renewed _).mp failed) size rfl

/-- The largest size that a document can give, at a host with less memory than that. -/
theorem largest_size_refused_by_host :
    let settings : Settings := ⟨9223372036854775807, .deferred, none⟩
    let session : Session Activation.SilentHost := start settings .fresh
    let placement := Placement.addressSpace 3 0x10000 0x20000
    Settings.ofText "jit.region_size = 9223372036854775807".toList = .ok settings ∧
      session.failure (.establish placement) = some (.hostExhausted "mmap(RW)" Errno.outOfMemory) ∧
      session.failure (.renew placement) = some (.hostExhausted "mmap(RW)" Errno.outOfMemory) := by
  intro settings session placement
  have read : Settings.ofTextBy Toml.Document.ofText "jit.region_size = 9223372036854775807".toList =
      .ok ⟨9223372036854775807, .deferred, none⟩ := by decide +kernel
  obtain ⟨_, _, established, renewed, absent, _⟩ :=
    sizes_of_text_creatable Toml.Document.isSigned read Activation.SilentHost.fresh [] placement
  have refused : (placement settings.regionSize).refusal? =
      some (.hostExhausted "mmap(RW)" Errno.outOfMemory) := by decide
  constructor
  · exact read
  · constructor
    · exact (established _).mpr ⟨rfl, refused⟩
    · apply (renewed _).mpr
      rw [absent rfl]
      exact refused

end Session

end TwinView
