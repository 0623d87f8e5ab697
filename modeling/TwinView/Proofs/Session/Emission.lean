import TwinView.Proofs.Session.Effect

/-!
Code stays as it was emitted. A session is run together with the blocks that were emitted into its region,
the latest first. The region holds zeros with these blocks laid on them one after the other, and each block
was laid behind everything that had been handed out before, so none has overwritten another. Storing at an
address of the caller's own choice is the one step that is left out.
-/

namespace TwinView.Session

open Activation (Host SteeredHost)

/-- Code that was emitted, with the address that came back. -/
structure Block where
  exec : UInt64
  code : Code

namespace Block

variable (views : ViewPair) (block : Block)

/-- The offset of the first byte. -/
def start : Nat := (block.exec - views.base .executable).toNat

def finish : Nat := block.start views + block.code.bytes.length

def Holds (offset : Nat) : Prop := block.start views ≤ offset ∧ offset < block.finish views

end Block

/-- The content that laying the blocks on zeros gives, with the offset up to which everything is handed out.
Each block starts there or behind. -/
inductive Laid (views : ViewPair) : List Block → Bytes → Nat → Prop where
  | blank : Laid views [] Bytes.zeros 0
  | skipped {blocks : List Block} {content : Bytes} {used further : Nat} :
      Laid views blocks content used → used ≤ further → Laid views blocks content further
  | block {blocks : List Block} {content : Bytes} {used : Nat} (block : Block) :
      Laid views blocks content used → used ≤ block.start views →
        block.finish views ≤ views.size.toNat →
          Laid views (block :: blocks) (content.store (block.start views) block.code.bytes)
            (block.finish views)

namespace Laid

variable {views : ViewPair} {blocks : List Block} {content : Bytes} {used : Nat}

theorem finish_le_used (laid : Laid views blocks content used) :
    ∀ block ∈ blocks, block.finish views ≤ used := by
  induction laid with
  | blank => simp
  | skipped _ further ih => exact fun block member => Nat.le_trans (ih block member) further
  | block last _ behind _ ih =>
      intro block member
      rcases List.mem_cons.mp member with rfl | earlier
      · exact Nat.le_refl _
      · exact Nat.le_trans (ih block earlier) (Nat.le_trans behind (Nat.le_add_right _ _))

theorem finish_le_size (laid : Laid views blocks content used) :
    ∀ block ∈ blocks, block.finish views ≤ views.size.toNat := by
  induction laid with
  | blank => simp
  | skipped _ _ ih => exact ih
  | block last _ _ inside ih =>
      intro block member
      rcases List.mem_cons.mp member with rfl | earlier
      · exact inside
      · exact ih block earlier

theorem in_order (laid : Laid views blocks content used) :
    blocks.Pairwise fun later earlier => earlier.finish views ≤ later.start views := by
  induction laid with
  | blank => exact List.Pairwise.nil
  | skipped _ _ ih => exact ih
  | block last laid behind _ ih =>
      apply List.pairwise_cons.mpr
      constructor
      · intro earlier member
        exact Nat.le_trans (laid.finish_le_used earlier member) behind
      · exact ih

theorem held (laid : Laid views blocks content used) :
    ∀ block ∈ blocks, ∀ index, (within : index < block.code.bytes.length) →
      content.byteAt (block.start views + index) = block.code.bytes[index] := by
  induction laid with
  | blank => simp
  | skipped _ _ ih => exact ih
  | block last laid behind _ ih =>
      intro block member index within
      rw [Bytes.byteAt_store]
      rcases List.mem_cons.mp member with rfl | earlier
      · rw [if_pos ⟨Nat.le_add_right _ _, Nat.add_lt_add_left within _⟩, Nat.add_sub_cancel_left,
          ← List.getElem_eq_getD 0]
      · -- The last block starts behind this one, so storing it has not come this far.
        have finish := laid.finish_le_used block earlier
        have before : ¬ (last.start views ≤ block.start views + index ∧
            block.start views + index < last.start views + last.code.bytes.length) := by
          unfold Block.finish at finish
          omega
        rw [if_neg before]
        exact ih block earlier index within

theorem blank_between (laid : Laid views blocks content used) {offset : Nat}
    (free : ∀ block ∈ blocks, ¬ block.Holds views offset) : content.byteAt offset = 0 := by
  induction laid with
  | blank => exact Bytes.byteAt_zeros offset
  | skipped _ _ ih => exact ih free
  | block last _ _ _ ih =>
      have outside := free last List.mem_cons_self
      unfold Block.Holds Block.finish at outside
      rw [Bytes.byteAt_store, if_neg outside]
      exact ih fun block earlier => free block (List.mem_cons_of_mem _ earlier)

end Laid

/-- A session with the blocks that were emitted since its region was made, the latest first. -/
structure Log (H : Type) where
  session : Session H
  blocks : List Block

variable {H : Type}

/-- Whether the step stores at an address that its caller names. -/
def Step.isWrite : Step H → Bool
  | .write _ _ => true
  | _ => false

namespace Log

def start (settings : Settings) (host : H) : Log H := ⟨Session.start settings host, []⟩

/-- The blocks after a step with the given result. -/
def collected (blocks : List Block) :
    Step H → EStateM.Result Fault (Session H) Answer → List Block
  | .emit code _, .ok (.address exec) _ => ⟨exec, code⟩ :: blocks
  | .renew _, _ => []
  | .release, .ok _ _ => []
  | _, _ => blocks

/-- While there is no region, nothing is handed out. A region holds the blocks and else nothing. -/
def Sound (log : Log H) : Prop :=
  match log.session.slot.region with
  | none => log.session.cursor = .zero ∧ log.blocks = []
  | some region => Laid region.views log.blocks region.content log.session.cursor.used.toNat

theorem start_sound (settings : Settings) (host : H) : (start settings host).Sound := ⟨rfl, rfl⟩

variable {session next : Session H} {blocks : List Block} {step : Step H}

theorem collected_failed (kept : step.isRenewal = false) (fault : Fault) :
    collected blocks step (.error fault next) = blocks := by
  cases step with
  | renew placement => cases kept
  | _ => rfl

theorem collected_established {settings : Settings} {size : UInt64}
    (sized : step.establishedSize settings = some size) :
    collected blocks step (.ok .done next) = blocks := by
  cases step with
  | establish | establishSized => rfl
  | _ => cases sized

theorem Sound.absent (sound : Sound ⟨session, blocks⟩) (missing : session.slot.region = none) :
    session.cursor = .zero ∧ blocks = [] := by
  simpa only [Sound, missing] using sound

theorem Sound.present {region : Region} (sound : Sound ⟨session, blocks⟩)
    (owned : session.slot.region = some region) :
    Laid region.views blocks region.content session.cursor.used.toNat := by
  simpa only [Sound, owned] using sound

variable [Host H]

def after (log : Log H) (step : Step H) : Log H :=
  ⟨log.session.after step, collected log.blocks step ((perform step).run log.session)⟩

def run (log : Log H) (steps : List (Step H)) : Log H := steps.foldl after log

theorem after_sound (log : Log H) (own : step.isWrite = false) (sound : log.Sound) :
    (log.after step).Sound := by
  obtain ⟨session, blocks⟩ := log
  have effect := perform_effect session step
  simp only [after, Session.after]
  generalize (perform step).run session = result at effect ⊢
  cases effect with
  | failed fault kept =>
      rw [collected_failed kept]
      exact sound
  | kept sized _ =>
      rw [collected_established sized]
      exact sound
  | established sized missing made =>
      -- The cursor stands at zero although nothing rewinds it here.
      obtain ⟨rewound, nothing⟩ := sound.absent missing
      rw [collected_established sized, nothing]
      simp only [Sound, rewound, made.content_eq]
      exact Laid.blank
  | reserved grants =>
      have laid := sound.present grants.owned
      simp only [Sound, grants.owned]
      exact Laid.skipped laid grants.advances
  | @emitted code align exec region cursor grants =>
      have laid := sound.present grants.owned
      have finish : Block.finish region.views ⟨exec, code⟩ = cursor.used.toNat := by
        rw [grants.finish, ← grants.start, Code.size_toNat]
        rfl
      have behind : session.cursor.used.toNat ≤ Block.start region.views ⟨exec, code⟩ :=
        Nat.le_trans grants.behind (Nat.le_of_eq grants.start.symm)
      have inside : Block.finish region.views ⟨exec, code⟩ ≤ region.views.size.toNat := by
        rw [finish]
        exact grants.inside
      have all := Laid.block ⟨exec, code⟩ laid behind inside
      rw [finish] at all
      exact all
  | written owned => cases own
  | located | coherent | gate => exact sound
  | lost => exact ⟨rfl, rfl⟩
  | released =>
      -- Without a region the cursor is not rewound, but it has nowhere to come back from.
      exact ⟨released_cursor fun missing => (sound.absent missing).1, rfl⟩
  | renewed placement made =>
      simp only [Sound, made.content_eq]
      exact Laid.blank

theorem run_sound (log : Log H) {steps : List (Step H)} (own : ∀ step ∈ steps, step.isWrite = false)
    (sound : log.Sound) : (log.run steps).Sound := by
  induction steps generalizing log with
  | nil => exact sound
  | cons step rest ih =>
      have next := log.after_sound (own step List.mem_cons_self) sound
      exact ih (log.after step) (fun other member => own other (List.mem_cons_of_mem _ member)) next

end Log

/-- However a session is used, emitted code reads back as it was given, no two blocks overlap, and the rest of
the region is as blank as when it was made. -/
theorem emitted_intact [Host H] (settings : Settings) (host : H) (steps : List (Step H))
    (own : ∀ step ∈ steps, step.isWrite = false) :
    let log := (Log.start settings host).run steps
    ∀ region, log.session.slot.region = some region →
      (∀ block ∈ log.blocks,
        region.read .executable block.exec block.code.bytes.length = some block.code.bytes) ∧
      (log.blocks.Pairwise fun later earlier =>
        earlier.finish region.views ≤ later.start region.views) ∧
      ∀ address : UInt64, (address - region.base .executable).toNat < region.size.toNat →
        (∀ block ∈ log.blocks,
          ¬ block.Holds region.views (address - region.base .executable).toNat) →
          region.load .executable address = some 0 := by
  intro log region owned
  have laid := (Log.run_sound _ own (Log.start_sound settings host)).present owned
  refine ⟨?_, laid.in_order, ?_⟩
  · intro block member
    exact Region.read_eq (laid.finish_le_size block member) (laid.held block member)
  · intro address inside free
    rw [Region.load_inside inside, laid.blank_between free]

/-- Two blocks, the second one behind padding, and an emission that was refused. -/
theorem padded_blocks_intact :
    let steps : List (Step SteeredHost) :=
      [.establish (.addressSpace 3 0x10000 0x80000), .emit ⟨[0xC3], by decide⟩ 1, .reserve 5 8,
        .emit ⟨[0x90, 0xC3], by decide⟩ 64, .emit ⟨[0xCC], by decide⟩ 3]
    let log := (Log.start (Settings.immediate.resized 4096) SteeredHost.fresh).run steps
    (∀ step ∈ steps, step.isWrite = false) ∧
      log.blocks.map Block.exec = [0x80040, 0x80000] ∧
      ∃ region, log.session.slot.region = some region ∧
        ∀ block ∈ log.blocks,
          region.read .executable block.exec block.code.bytes.length = some block.code.bytes := by
  intro steps log
  have own : ∀ step ∈ steps, step.isWrite = false := by decide
  refine ⟨own, rfl, _, rfl, ?_⟩
  exact (emitted_intact _ _ steps own _ rfl).1

end TwinView.Session
