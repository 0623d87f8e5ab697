import TwinView.Proofs.Session.Creatable

/-!
Whom a failed step blames. A stray address blames the caller, and all else is meant to send the caller back to
interpreting. One kind of fault does neither: a size that could never be served. What each step can fail with is said
once, as its causes; that a size was at fault can be told from the step and the session alone.
-/

namespace TwinView

namespace Region

theorem ofAnswers_badSize_iff {answers : HostAnswers} {size bad : UInt64} :
    ofAnswers answers size = .error (.badSize bad) ↔ IllSized answers size ∧ bad = size := by
  constructor
  · intro failed
    by_cases ill : IllSized answers size
    · rw [ofAnswers_illSized ill] at failed
      cases failed
      exact ⟨ill, rfl⟩
    · exact absurd rfl (HostAnswers.refusal_ne_badSize ((ofAnswers_error_iff ill).mp failed) bad)
  · rintro ⟨ill, rfl⟩
    exact ofAnswers_illSized ill

theorem blame_of_ofAnswers {answers : HostAnswers} {size : UInt64} {fault : Fault}
    (failed : ofAnswers answers size = .error fault) :
    (∃ bad, fault = .badSize bad) ∨ fault.fallsBack = true := by
  by_cases ill : IllSized answers size
  · rw [ofAnswers_illSized ill] at failed
    cases failed
    exact Or.inl ⟨size, rfl⟩
  · exact Or.inr (HostAnswers.refusal_fallsBack ((ofAnswers_error_iff ill).mp failed))

end Region

namespace Cursor

/-- The size that a request names could not be served by any region: no bytes, or an alignment that is none. -/
inductive IllSized (len align : UInt64) : UInt64 → Prop where
  | empty : len = 0 → IllSized len align len
  | unaligned : 0 < len.toNat → ¬ align.toNat.isPowerOfTwo → IllSized len align align

theorem Refuses.badSize_iff {slot : Slot} {len align bad : UInt64} {cursor : Cursor} {fault : Fault}
    (refuses : Refuses slot len align cursor fault) : fault = .badSize bad ↔ IllSized len align bad := by
  constructor
  · rintro rfl
    cases refuses with
    | empty zero => exact .empty zero
    | unaligned nonempty power =>
        apply IllSized.unaligned nonempty
        rw [← Alignment.isPowerOfTwo_iff, power]
        exact Bool.false_ne_true
  · intro ill
    cases refuses with
    | empty zero =>
        cases ill with
        | empty => rfl
        | unaligned nonempty => simp [zero] at nonempty
    | unaligned nonempty power =>
        cases ill with
        | empty zero => simp [zero] at nonempty
        | unaligned => rfl
    | missing nonempty power | full nonempty power =>
        cases ill with
        | empty zero => simp [zero] at nonempty
        | unaligned _ uneven => exact absurd (Alignment.isPowerOfTwo_iff.mp power) uneven

theorem Refuses.blame {slot : Slot} {len align : UInt64} {cursor : Cursor} {fault : Fault}
    (refuses : Refuses slot len align cursor fault) :
    (∃ bad, fault = .badSize bad) ∨ fault.fallsBack = true := by
  cases refuses with
  | empty | unaligned => exact Or.inl ⟨_, rfl⟩
  | missing | full => exact Or.inr rfl

theorem Grants.not_illSized {slot : Slot} {len align bad address : UInt64} {before after : Cursor}
    {region : Region} (grants : Grants slot len align before region address after) :
    ¬ IllSized len align bad := by
  rintro (zero | ⟨_, uneven⟩)
  · have nonempty := grants.nonempty
    simp [zero] at nonempty
  · exact uneven (Alignment.isPowerOfTwo_iff.mp grants.power)

end Cursor

namespace Session

open Activation (Gate Host)

variable {H : Type}

/-- Whether the step is given an address. -/
def Step.takesAddress : Step H → Bool
  | .write _ _ | .counterpart _ | .synchronize _ _ => true
  | _ => false

/-- What can make a step fail, with the fault that it is reported by. -/
inductive Fails (session : Session H) : Step H → Fault → Prop where
  | unestablished {placement : Placement} {fault : Fault} : session.slot.region = none →
      Region.ofAnswers (placement session.settings.regionSize) session.settings.regionSize = .error fault →
        Fails session (.establish placement) fault
  | unmade {placement : Placement} {size : UInt64} {fault : Fault} : session.slot.region = none →
      Region.ofAnswers (placement size) size = .error fault →
        Fails session (.establishSized placement size) fault
  | unrenewed {placement : Placement} {fault : Fault} :
      Region.ofAnswers (placement session.renewedSize) session.renewedSize = .error fault →
        Fails session (.renew placement) fault
  | unreserved {len align : UInt64} {fault : Fault} :
      Cursor.Refuses session.slot len align session.cursor fault →
        Fails session (.reserve len align) fault
  | unemitted {code : Code} {align : UInt64} {fault : Fault} :
      Cursor.Refuses session.slot code.size align session.cursor fault →
        Fails session (.emit code align) fault
  | missing {step : Step H} : step.takesAddress = true → session.slot.region = none →
      Fails session step .noRegion
  | stray {step : Step H} (address : UInt64) : step.takesAddress = true →
      Fails session step (.foreignAddress address)
  | expired {now bound : Span} : Fails session (.gate (.await now (some bound))) (.waitExpired bound)

variable {session : Session H}

/-- An operation on the region fails for want of one, or as it fails on the region that is there. -/
theorem onRegion_fault {operation : EStateM Fault Region Unit} {step : Step H} {fault : Fault}
    {after : Session H} (takes : step.takesAddress = true)
    (strays : ∀ region fault next, operation region = .error fault next →
      ∃ address, fault = .foreignAddress address)
    (failed : (onSlot (Slot.onRegion operation)).run session = .error fault after) :
    Fails session step fault := by
  rcases session with ⟨settings, ⟨_ | region⟩, cursor, gate⟩
  · cases failed
    exact .missing takes rfl
  · cases result : operation region with
    | ok answer next => simp [EStateM.run, onSlot, Slot.onRegion, result] at failed
    | error reported next =>
        obtain ⟨address, rfl⟩ := strays region reported next result
        simp only [EStateM.run, onSlot, Slot.onRegion, result] at failed
        cases failed
        exact .stray address takes

theorem write_fault {exec : UInt64} {code : Code} {fault : Fault} {after : Session H}
    (failed : (write exec code).run session = .error fault after) :
    Fails session (.write exec code) fault := by
  apply onRegion_fault rfl _ failed
  intro region reported next refused
  rw [region.write_exact exec code] at refused
  split at refused <;> cases refused
  exact ⟨_, rfl⟩

theorem synchronize_fault {exec len : UInt64} {fault : Fault} {after : Session H}
    (failed : (synchronize exec len).run session = .error fault after) :
    Fails session (.synchronize exec len) fault := by
  apply onRegion_fault rfl _ failed
  intro region reported next refused
  rw [region.synchronize_exact exec len] at refused
  split at refused <;> cases refused
  exact ⟨_, rfl⟩

theorem counterpart_fault {exec : UInt64} {fault : Fault} {after : Session H}
    (failed : (counterpart exec).run session = .error fault after) :
    Fails session (.counterpart exec) fault := by
  cases found : session.slot.counterpart .executable exec with
  | ok address => simp [counterpart, found] at failed
  | error reported =>
      simp only [counterpart, EStateM.run_bind, EStateM.run_get, found] at failed
      cases failed
      rcases session with ⟨settings, ⟨_ | region⟩, cursor, gate⟩
      · cases found
        exact .missing rfl rfl
      · simp only [Slot.counterpart, Slot.owned, Except.bind, ViewPair.across,
          region.views.offset_exact .executable exec] at found
        split at found <;> cases found
        exact .stray _ rfl

theorem await_fault {gate : Gate H} {now : Span} {timeout : Option Span} {fault : Fault}
    (failed : gate.await now timeout = some (.error fault)) :
    ∃ bound, timeout = some bound ∧ fault = .waitExpired bound := by
  unfold Gate.await Activation.await at failed
  split at failed
  · cases failed
  · split at failed
    · cases failed
    · split at failed <;> cases failed
      exact ⟨_, rfl, rfl⟩

/-- A step that fails, taken apart: the operation that it performs has failed. -/
theorem error_of_faultOf {α : Type} {operation : Op H α} {answer : α → Answer} {fault : Fault}
    (plain : ∀ value next, faultOf (.ok (answer value) next : EStateM.Result Fault (Session H) Answer) = none)
    (failed : faultOf ((operation >>= fun value => pure (answer value)).run session) = some fault) :
    ∃ after, operation.run session = .error fault after := by
  rw [EStateM.run_bind] at failed
  cases result : operation.run session with
  | ok value next =>
      simp only [result, EStateM.run_pure, plain] at failed
      cases failed
  | error reported after =>
      simp only [result, faultOf] at failed
      cases failed
      exact ⟨after, rfl⟩

/-- Every cause has its class, except that a size which could never be served has none. -/
theorem Fails.blame {step : Step H} {fault : Fault} (fails : Fails session step fault) :
    (∃ size, fault = .badSize size) ∨ fault.fallsBack = true ∨
      fault.isCallerBug = true ∧ step.takesAddress = true := by
  cases fails with
  | unestablished missing failed | unmade missing failed =>
      exact (Region.blame_of_ofAnswers failed).imp_right Or.inl
  | unrenewed failed => exact (Region.blame_of_ofAnswers failed).imp_right Or.inl
  | unreserved refuses | unemitted refuses => exact refuses.blame.imp_right Or.inl
  | missing | expired => exact Or.inr (Or.inl rfl)
  | stray address takes => exact Or.inr (Or.inr ⟨rfl, takes⟩)

variable [Host H]

theorem failure_fails {step : Step H} {fault : Fault} (failed : session.failure step = some fault) :
    Fails session step fault := by
  cases step with
  | establish placement =>
      obtain ⟨missing, refused⟩ := (session.establish_failure_iff placement fault).mp failed
      exact .unestablished missing refused
  | establishSized placement size =>
      obtain ⟨missing, refused⟩ := (session.establishSized_failure_iff placement size fault).mp failed
      exact .unmade missing refused
  | renew placement => exact .unrenewed ((session.renew_failure_iff placement fault).mp failed)
  | reserve len align =>
      obtain ⟨after, refused⟩ := error_of_faultOf (fun _ _ => rfl) failed
      rcases session.reserve_cases len align with ⟨_, reported, refuses⟩ | ⟨_, _, _, _, reserved⟩
      · rw [reported] at refused
        cases refused
        exact .unreserved refuses
      · rw [reserved] at refused
        cases refused
  | emit code align =>
      obtain ⟨after, refused⟩ := error_of_faultOf (fun _ _ => rfl) failed
      rcases session.emit_cases code align with ⟨_, refuses, _, reported⟩ | ⟨_, _, _, _, _, emitted⟩
      · rw [reported] at refused
        cases refused
        exact .unemitted refuses
      · rw [emitted] at refused
        cases refused
  | write exec code =>
      obtain ⟨after, refused⟩ := error_of_faultOf (fun _ _ => rfl) failed
      exact write_fault refused
  | counterpart exec =>
      obtain ⟨after, refused⟩ := error_of_faultOf (fun _ _ => rfl) failed
      exact counterpart_fault refused
  | synchronize exec len =>
      obtain ⟨after, refused⟩ := error_of_faultOf (fun _ _ => rfl) failed
      exact synchronize_fault refused
  | release =>
      obtain ⟨after, refused⟩ := error_of_faultOf (fun _ _ => rfl) failed
      rw [release_exact] at refused
      cases refused
  | gate step =>
      cases step with
      | await now timeout =>
          have told : faultOf (.ok (.gate (.waited (session.gate.await now timeout))) session) = some fault :=
            failed
          have expired : session.gate.await now timeout = some (.error fault) := by
            unfold faultOf at told
            split at told <;> simp_all
          obtain ⟨bound, rfl, rfl⟩ := await_fault expired
          exact .expired
      | _ => cases failed

/-- The step asks for a size that could never be served. -/
def IllSized (session : Session H) (size : UInt64) : Step H → Prop
  | .establish placement =>
      session.slot.region = none ∧
        Region.IllSized (placement session.settings.regionSize) session.settings.regionSize ∧
          size = session.settings.regionSize
  | .establishSized placement asked =>
      session.slot.region = none ∧ Region.IllSized (placement asked) asked ∧ size = asked
  | .renew placement =>
      Region.IllSized (placement session.renewedSize) session.renewedSize ∧ size = session.renewedSize
  | .reserve len align => Cursor.IllSized len align size
  | .emit code align => Cursor.IllSized code.size align size
  | .write _ _ | .counterpart _ | .synchronize _ _ | .release | .gate _ => False

theorem reserve_badSize_iff (len align size : UInt64) :
    session.failure (.reserve len align) = some (.badSize size) ↔ Cursor.IllSized len align size := by
  rcases session.reserve_cases len align with ⟨fault, refused, refuses⟩ | ⟨_, _, _, grants, reserved⟩
  · have failed : session.failure (.reserve len align) = some fault := by
      simp only [failure, perform, EStateM.run_bind, refused, faultOf]
    rw [failed, Option.some_inj, refuses.badSize_iff]
  · have granted : session.failure (.reserve len align) = none := by
      simp only [failure, perform, EStateM.run_bind, reserved, EStateM.run_pure, faultOf]
    simp [granted, grants.not_illSized]

theorem badSize_iff (step : Step H) (size : UInt64) :
    session.failure step = some (.badSize size) ↔ session.IllSized size step := by
  cases step with
  | establish placement =>
      rw [establish_failure_iff, Region.ofAnswers_badSize_iff]
      rfl
  | establishSized placement asked =>
      rw [establishSized_failure_iff, Region.ofAnswers_badSize_iff]
      rfl
  | renew placement =>
      rw [renew_failure_iff, Region.ofAnswers_badSize_iff]
      rfl
  | reserve len align => exact reserve_badSize_iff len align size
  | emit code align => exact emit_failure_iff.trans (reserve_badSize_iff code.size align size)
  | write | counterpart | synchronize | release | gate =>
      constructor
      · intro failed
        cases failure_fails failed
      · exact False.elim

/-- A step fails for its size exactly if it asks for one that could never be served, and such a fault is in neither
class. Every other failure of a step is in exactly one of them, whatever the state of the session is. Only a step
that is given an address can blame its caller. -/
theorem blamed_once_unless_ill_sized (session : Session H) :
    (∀ step size, session.failure step = some (.badSize size) ↔ session.IllSized size step) ∧
      ∀ step fault, session.failure step = some fault →
        ((fault.isCallerBug ^^ fault.fallsBack) = true ↔ ∀ size, ¬ session.IllSized size step) ∧
          (fault.isCallerBug && fault.fallsBack) = false ∧
          (fault.isCallerBug = true → step.takesAddress = true) := by
  constructor
  · intro step size
    exact badSize_iff step size
  · intro step fault failed
    have sizes : ∀ size, session.IllSized size step ↔ fault = .badSize size := by
      intro size
      rw [← badSize_iff, failed, Option.some_inj]
    rcases (failure_fails failed).blame with ⟨size, rfl⟩ | falls | ⟨bug, takes⟩
    · have ill := (sizes size).mpr rfl
      refine ⟨⟨?_, ?_⟩, rfl, ?_⟩
      · intro classed
        cases classed
      · intro well
        exact absurd ill (well size)
      · intro bug
        cases bug
    · have blameless := Fault.not_isCallerBug_of_fallsBack falls
      have sized : ∀ size, ¬ session.IllSized size step := by
        intro size ill
        rw [(sizes size).mp ill] at falls
        cases falls
      simp [falls, blameless, sized]
    · have sized : ∀ size, ¬ session.IllSized size step := by
        intro size ill
        rw [(sizes size).mp ill] at bug
        cases bug
      have unexcused : fault.fallsBack = false := by
        cases falls : fault.fallsBack with
        | false => rfl
        | true => exact absurd bug (Fault.not_isCallerBug_of_fallsBack falls)
      simp [bug, unexcused, sized, takes]

/-- A request for no bytes fails on every session, and nobody is told what to make of it. -/
theorem empty_request_in_neither_class :
    let session : Session Activation.SilentHost := start Settings.default .fresh
    ∃ fault, session.failure (.reserve 0 1) = some fault ∧
      fault.isCallerBug = false ∧ fault.fallsBack = false := by
  exact ⟨.badSize 0, rfl, rfl, rfl⟩

end Session

end TwinView
