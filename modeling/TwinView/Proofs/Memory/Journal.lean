import TwinView.Proofs.Memory.Making
import TwinView.Proofs.Memory.Sharing

/-!
What a region holds, told from what was done with its slot. Code gets into a region in two ways, at an
executable address and at an offset. The journal of a region notes where the first byte went, whichever way
it was. Through both views the region then shows, for every byte, what the latest note has there, and zero
where there is none. Whatever was refused, looked up, made coherent or asked for again has left no trace.
-/

namespace TwinView

/-- Code that was stored in a region, and the offset of its first byte. -/
structure Entry where
  offset : UInt64
  code : Code

namespace Entry

def Covers (entry : Entry) (place : Nat) : Prop :=
  entry.offset.toNat ≤ place ∧ place < entry.offset.toNat + entry.code.bytes.length

instance (entry : Entry) (place : Nat) : Decidable (entry.Covers place) :=
  inferInstanceAs (Decidable (_ ∧ _))

def byteAt (entry : Entry) (place : Nat) : UInt8 :=
  entry.code.bytes.getD (place - entry.offset.toNat) 0

/-- The byte that the latest entry for the place has there. The latest entry comes first. -/
def shown : List Entry → Nat → UInt8
  | [], _ => 0
  | entry :: earlier, place => if entry.Covers place then entry.byteAt place else shown earlier place

end Entry

namespace Region

/-- What a step stores in the region, if the region accepts it. -/
def entry? (region : Region) : Slot.Step → Option Entry
  | .write exec code => some ⟨exec - region.base .executable, code⟩
  | .place code offset => some ⟨offset, code⟩
  | .fill _ _ | .clear | .counterpart _ _ | .synchronize _ _ => none

def enter (region : Region) (entry : Entry) : Region := region.store entry.offset entry.code

theorem byteAt_enter (region : Region) (entry : Entry) (place : Nat) :
    (region.enter entry).content.byteAt place =
      if entry.Covers place then entry.byteAt place else region.content.byteAt place :=
  Bytes.byteAt_store entry.code.bytes region.content entry.offset.toNat place

end Region

namespace Slot

/-- What a step may come to, with the slot as it is then. -/
inductive Effect (slot : Slot) : Step → EStateM.Result Fault Slot Answer → Prop where
  | refused {step : Step} (fault : Fault) :
      (∀ placement size, step = .fill placement size → slot.region = none) →
        Effect slot step (.error fault slot)
  | kept (placement : Placement) (size : UInt64) :
      slot.isFilled = true → Effect slot (.fill placement size) (.ok .done slot)
  | filled (placement : Placement) {size : UInt64} {region : Region} :
      slot.region = none → Region.Made size region →
        Effect slot (.fill placement size) (.ok .done ⟨some region⟩)
  | cleared : Effect slot .clear (.ok (.existed slot.isFilled) .empty)
  | located (view : View) (address found : UInt64) :
      Effect slot (.counterpart view address) (.ok (.address found) slot)
  | coherent (exec len : UInt64) : Effect slot (.synchronize exec len) (.ok .done slot)
  | stored {step : Step} {region : Region} {entry : Entry} :
      slot.region = some region → region.entry? step = some entry →
        entry.offset.toNat + entry.code.bytes.length ≤ region.size.toNat →
          Effect slot step (.ok .done ⟨some (region.enter entry)⟩)

theorem fill_effect (slot : Slot) (placement : Placement) (size : UInt64) :
    Effect slot (.fill placement size) ((perform (.fill placement size)).run slot) := by
  rcases slot with ⟨_ | region⟩
  · rcases fill_empty_cases placement size with ⟨fault, failed⟩ | ⟨region, made, filled⟩
    · have refused : (fill placement size).run ⟨none⟩ = .error fault ⟨none⟩ := failed
      simp only [perform, EStateM.run_bind, refused]
      exact Effect.refused fault fun _ _ _ => rfl
    · have there : (fill placement size).run ⟨none⟩ = .ok () ⟨some region⟩ := filled
      simp only [perform, EStateM.run_bind, there]
      exact Effect.filled placement rfl made
  · exact Effect.kept placement size rfl

theorem counterpart_effect (slot : Slot) (view : View) (address : UInt64) :
    Effect slot (.counterpart view address) ((perform (.counterpart view address)).run slot) := by
  cases found : slot.counterpart view address with
  | error fault =>
      have refused : (perform (.counterpart view address)).run slot = .error fault slot := by
        simp [perform, found]
        rfl
      rw [refused]
      exact Effect.refused fault nofun
  | ok other =>
      have located : (perform (.counterpart view address)).run slot = .ok (.address other) slot := by
        simp [perform, found]
      rw [located]
      exact Effect.located view address other

theorem onRegion_exact {step : Step} {operation : EStateM Fault Region Unit} {region next : Region}
    {fault : Fault} {accepted : Prop} [Decidable accepted]
    (performed : perform step = do onRegion operation; pure .done)
    (checked : operation region = if accepted then .ok () next else .error fault region) :
    (perform step).run ⟨some region⟩ =
      if accepted then .ok .done ⟨some next⟩ else .error fault ⟨some region⟩ := by
  have ran := run_onRegion checked
  rw [performed, EStateM.run_bind, ran]
  by_cases accepts : accepted <;> simp only [accepts, if_true, if_false, EStateM.run_pure]

theorem perform_effect (slot : Slot) (step : Step) : Effect slot step ((perform step).run slot) := by
  cases step with
  | fill placement size => exact slot.fill_effect placement size
  | clear => exact Effect.cleared
  | counterpart view address => exact slot.counterpart_effect view address
  | synchronize exec len =>
      rcases slot with ⟨_ | region⟩
      · exact Effect.refused .noRegion nofun
      · rw [onRegion_exact rfl (region.synchronize_exact exec len)]
        split
        · exact Effect.coherent exec len
        · exact Effect.refused _ nofun
  | write exec code =>
      rcases slot with ⟨_ | region⟩
      · exact Effect.refused .noRegion nofun
      · rw [onRegion_exact rfl (region.write_exact exec code)]
        split
        next covered =>
          have stores : region.entry? (.write exec code) =
              some ⟨exec - region.base .executable, code⟩ := rfl
          have fits := covered.2
          rw [Code.size_toNat] at fits
          exact Effect.stored rfl stores fits
        next => exact Effect.refused _ nofun
  | place code offset =>
      rcases slot with ⟨_ | region⟩
      · exact Effect.refused .noRegion nofun
      · rw [onRegion_exact rfl (region.place_exact code offset)]
        split
        next fits =>
          have stores : region.entry? (.place code offset) = some ⟨offset, code⟩ := rfl
          exact Effect.stored rfl stores fits
        next => exact Effect.refused _ nofun

section Outcomes

variable {slot next : Slot} {step : Step} {answer : Answer} {fault : Fault} {region : Region}
  {placement : Placement} {size : UInt64}

theorem same_of_error (failed : (perform step).run slot = .error fault next) : next = slot := by
  have effect := slot.perform_effect step
  rw [failed] at effect
  cases effect
  rfl

/-- Short of being given up, a region keeps its views, and everything else too unless the step stores. -/
theorem region_of_ok (owned : slot.region = some region) (held : step ≠ .clear)
    (done : (perform step).run slot = .ok answer next) :
    ∃ later, next.region = some later ∧ later.views = region.views ∧
      (region.entry? step = none → later = region) := by
  have effect := slot.perform_effect step
  rw [done] at effect
  cases effect with
  | kept | located | coherent => exact ⟨region, owned, rfl, fun _ => rfl⟩
  | filled placement missing made =>
      rw [owned] at missing
      cases missing
  | cleared => exact absurd rfl held
  | stored there stores fits =>
      rw [owned] at there
      cases there
      refine ⟨_, rfl, rfl, ?_⟩
      intro nothing
      rw [stores] at nothing
      cases nothing

theorem perform_fill_filled (placement : Placement) (size : UInt64) (filled : slot.isFilled = true) :
    (perform (.fill placement size)).run slot = .ok .done slot := by
  obtain ⟨region, owned⟩ := Option.isSome_iff_exists.mp filled
  rcases slot with ⟨content⟩
  cases owned
  rfl

theorem after_synchronize (slot : Slot) (exec len : UInt64) : slot.after (.synchronize exec len) = slot := by
  have effect := slot.perform_effect (.synchronize exec len)
  unfold after
  generalize (perform (.synchronize exec len)).run slot = result at effect ⊢
  cases effect with
  | refused | coherent => rfl
  | stored _ stores _ => cases stores

theorem missing_of_fill_error (failed : (perform (.fill placement size)).run slot = .error fault next) :
    next.region = none := by
  have effect := slot.perform_effect (.fill placement size)
  rw [failed] at effect
  cases effect with
  | refused _ vacant => exact vacant placement size rfl

theorem made_of_fill_ok (missing : slot.region = none)
    (done : (perform (.fill placement size)).run slot = .ok answer next) :
    ∃ region, next.region = some region ∧ Region.Made size region := by
  have effect := slot.perform_effect (.fill placement size)
  rw [done] at effect
  cases effect with
  | kept _ _ filled =>
      rw [isFilled, missing] at filled
      cases filled
  | filled _ _ made => exact ⟨_, rfl, made⟩
  | stored _ stores _ => cases stores

end Outcomes

end Slot

namespace Journal

/-- A slot with the entries of its region, the latest first. -/
structure History where
  slot : Slot
  entries : List Entry

/-- The entries after a step with the given result. What has come into an empty slot is new and has none. -/
def noted (slot : Slot) (entries : List Entry) (step : Slot.Step) :
    EStateM.Result Fault Slot Slot.Answer → List Entry
  | .error _ _ => entries
  | .ok _ _ =>
      match slot.region with
      | none => []
      | some region => (region.entry? step).toList ++ entries

theorem noted_ok {slot next : Slot} {region : Region} {entries : List Entry} {step : Slot.Step}
    {answer : Slot.Answer} (owned : slot.region = some region) :
    noted slot entries step (.ok answer next) = (region.entry? step).toList ++ entries := by
  simp only [noted, owned]

namespace History

def start : History := ⟨.empty, []⟩

def after (history : History) (step : Slot.Step) : History :=
  ⟨history.slot.after step,
    noted history.slot history.entries step ((Slot.perform step).run history.slot)⟩

def run (history : History) (steps : List Slot.Step) : History := steps.foldl after history

/-- The region shows what its entries say. -/
def Sound (history : History) : Prop :=
  ∀ region, history.slot.region = some region →
    ∀ place, region.content.byteAt place = Entry.shown history.entries place

theorem start_sound : start.Sound := nofun

theorem after_sound (history : History) (step : Slot.Step) (sound : history.Sound) :
    (history.after step).Sound := by
  obtain ⟨slot, entries⟩ := history
  have effect := slot.perform_effect step
  simp only [after, Slot.after]
  generalize (Slot.perform step).run slot = result at effect ⊢
  cases effect with
  | refused fault vacant => exact sound
  | kept | located | coherent =>
      intro region owned
      rw [noted_ok owned]
      exact sound region owned
  | filled placement missing made =>
      intro _ owned place
      cases owned
      simp only [noted, missing, Entry.shown, made.content_eq]
      exact Bytes.byteAt_zeros place
  | cleared => exact nofun
  | @stored _ region entry owned stores fits =>
      intro _ entered place
      cases entered
      rw [noted_ok owned, stores]
      simp only [Option.toList_some, List.singleton_append, Entry.shown, Region.byteAt_enter]
      rw [sound region owned place]

theorem run_sound (history : History) (steps : List Slot.Step) (sound : history.Sound) :
    (history.run steps).Sound := by
  induction steps generalizing history with
  | nil => exact sound
  | cons step rest ih =>
      apply ih (history.after step)
      exact history.after_sound step sound

end History

/-- In every run, a region shows through both views what the latest accepted store of it has for a byte, and
zero without one. What is refused leaves the slot as it was, and what is accepted without storing leaves the
region as it was, down to its bases and its size. Making a range coherent leaves the slot as it was, accepted or
not. Filling a filled slot succeeds, whatever the size, and
filling that fails leaves no region; giving up answers whether there was one, and what comes after it is
blank. -/
theorem region_shows_stores (steps : List Slot.Step) :
    let history := History.start.run steps
    let slot := history.slot
    (∀ region view offset, slot.region = some region → offset < region.size →
        region.load view (region.base view + offset) =
          some (Entry.shown history.entries offset.toNat)) ∧
      (∀ step fault next, (Slot.perform step).run slot = .error fault next → next = slot) ∧
      (∀ step answer next region, slot.region = some region → step ≠ .clear →
        (Slot.perform step).run slot = .ok answer next →
          ∃ later, next.region = some later ∧ later.views = region.views ∧
            (region.entry? step = none → later = region)) ∧
      (∀ exec len, slot.after (.synchronize exec len) = slot) ∧
      (∀ placement size, slot.isFilled = true →
        (Slot.perform (.fill placement size)).run slot = .ok .done slot) ∧
      (∀ placement size fault next,
        (Slot.perform (.fill placement size)).run slot = .error fault next → next.region = none) ∧
      (Slot.perform .clear).run slot = .ok (.existed slot.isFilled) .empty ∧
      ∀ placement size answer next, slot.region = none →
        (Slot.perform (.fill placement size)).run slot = .ok answer next →
          ∃ region, next.region = some region ∧ region.size = size ∧
            ∀ view offset, offset < size → region.load view (region.base view + offset) = some 0 := by
  intro history slot
  have sound : history.Sound := History.start.run_sound steps History.start_sound
  refine ⟨?_, ?_, ?_, ?_, ?_, ?_, rfl, ?_⟩
  · intro region view offset owned inside
    rw [region.load_offset view inside, sound region owned]
  · intro step fault next failed
    exact Slot.same_of_error failed
  · intro step answer next region owned held done
    exact Slot.region_of_ok owned held done
  · exact slot.after_synchronize
  · intro placement size filled
    exact Slot.perform_fill_filled placement size filled
  · intro placement size fault next failed
    exact Slot.missing_of_fill_error failed
  · intro placement size answer next missing done
    obtain ⟨region, owned, made⟩ := Slot.made_of_fill_ok missing done
    refine ⟨region, owned, made.size_eq, ?_⟩
    intro view offset inside
    rw [← made.size_eq] at inside
    rw [region.load_offset view inside, made.content_eq, Bytes.byteAt_zeros]

/-- Two stores that overlap, one by address and one by offset, with a refused one after them. -/
example :
    let steps : List Slot.Step :=
      [.fill (.addressSpace 3 0x10000 0x80000) 4096, .write 0x80008 ⟨[0x90, 0x90, 0xC3], by decide⟩,
        .place ⟨[0xCC], by decide⟩ 9, .write 0x80FFF ⟨[0x90, 0xC3], by decide⟩]
    let entries := (History.start.run steps).entries
    [7, 8, 9, 10, 11].map (Entry.shown entries) = [0, 0x90, 0xCC, 0xC3, 0] := by
  decide

end Journal

end TwinView
