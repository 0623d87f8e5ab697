import TwinView.Memory.Slot

/-!
What making a region comes to, however the host answers and whatever the process holds already. The size is at
fault, or the host refuses a call, or there is a region. A region that was made has the size that was asked for,
which is neither zero nor beyond what a file can have, and it holds zeros. A slot that is filled keeps its region,
and an empty one has a new region afterwards or is as empty as before.
-/

namespace TwinView

namespace HostAnswers

def refused {α : Type} (operation : String) : Except Int α → Option Fault
  | .ok _ => none
  | .error errno => some (.ofRefusal operation errno)

/-- A mapping that is refused, or that is of no use for where it lies. -/
def unmapped (operation : String) : Except Int UInt64 → Option Fault
  | .ok base => if base = 0 then some (.hostExhausted operation Errno.outOfMemory) else none
  | .error errno => some (.ofRefusal operation errno)

/-- The report of the first call that the host refuses. -/
def refusal? (answers : HostAnswers) : Option Fault :=
  (refused "memfd_create" answers.descriptor).or <| (refused "ftruncate" answers.resize).or <|
    (unmapped "mmap(RW)" answers.writable).or <| unmapped "mmap(RX)" answers.executable

theorem refused_fallsBack {α : Type} {operation : String} {answer : Except Int α} {fault : Fault}
    (reported : refused operation answer = some fault) : fault.fallsBack = true := by
  cases answer with
  | ok value => cases reported
  | error errno =>
      cases reported
      rw [Fault.ofRefusal]
      split <;> rfl

theorem unmapped_fallsBack {operation : String} {answer : Except Int UInt64} {fault : Fault}
    (reported : unmapped operation answer = some fault) : fault.fallsBack = true := by
  cases answer with
  | ok base =>
      rw [unmapped] at reported
      split at reported <;> cases reported
      rfl
  | error errno =>
      cases reported
      rw [Fault.ofRefusal]
      split <;> rfl

theorem refusal_fallsBack {answers : HostAnswers} {fault : Fault}
    (reported : answers.refusal? = some fault) : fault.fallsBack = true := by
  simp only [refusal?, Option.or_eq_some_iff] at reported
  rcases reported with first | ⟨_, second | ⟨_, third | ⟨_, fourth⟩⟩⟩
  · exact refused_fallsBack first
  · exact refused_fallsBack second
  · exact unmapped_fallsBack third
  · exact unmapped_fallsBack fourth

theorem refusal_ne_badSize {answers : HostAnswers} {fault : Fault} (reported : answers.refusal? = some fault)
    (size : UInt64) : fault ≠ .badSize size := by
  rintro rfl
  cases refusal_fallsBack reported

end HostAnswers

namespace Ledger

/-- The ledger with something that stays in it for good. -/
def strand (ledger left : Ledger) : Ledger :=
  ⟨left.descriptors ++ ledger.descriptors, left.mappings ++ ledger.mappings⟩

@[simp] theorem strand_empty (ledger : Ledger) : ledger.strand .empty = ledger := rfl

@[simp] theorem empty_strand (left : Ledger) : Ledger.empty.strand left = left := by
  simp [strand, empty]

@[simp] theorem closeDescriptor_openDescriptor (ledger : Ledger) (descriptor : Int) :
    (ledger.openDescriptor descriptor).closeDescriptor descriptor = ledger := by
  simp [openDescriptor, closeDescriptor]

@[simp] theorem unmap_map (ledger : Ledger) (base size : UInt64) :
    (ledger.map base size).unmap base size = ledger := by
  simp [map, unmap]

@[simp] theorem closeDescriptor_map (ledger : Ledger) (descriptor : Int) (base size : UInt64) :
    (ledger.map base size).closeDescriptor descriptor = (ledger.closeDescriptor descriptor).map base size := rfl

theorem unmap_map_of_ne {base other : UInt64} (different : other ≠ base) (ledger : Ledger) (size : UInt64) :
    (ledger.map other size).unmap base size = (ledger.unmap base size).map other size := by
  simp [map, unmap, different]

end Ledger

namespace Region

structure Creatable (size : UInt64) : Prop where
  nonempty : size ≠ 0
  limited : size < fileLimit

/-- There can be no region of this size, and the host has let it come to the point where that is noticed. -/
def IllSized (answers : HostAnswers) (size : UInt64) : Prop :=
  size = 0 ∨ fileLimit ≤ size ∧ ∃ descriptor, answers.descriptor = .ok descriptor

theorem Creatable.not_illSized {size : UInt64} (creatable : Creatable size) (answers : HostAnswers) :
    ¬ IllSized answers size := by
  rintro (empty | ⟨beyond, _⟩)
  · exact creatable.nonempty empty
  · exact UInt64.not_le.mpr creatable.limited beyond

def atZero : Except Int UInt64 → Bool
  | .ok base => base = 0
  | .error _ => false

/-- What an attempt leaves with the host for good: the descriptor for a size that no file can have, or a mapping
at address zero. -/
def stranded (answers : HostAnswers) (size : UInt64) : Ledger :=
  match answers.descriptor with
  | .error _ => .empty
  | .ok descriptor =>
      if size = 0 then .empty
      else if fileLimit ≤ size then ⟨[descriptor], []⟩
      else
        match answers.resize, answers.writable with
        | .ok _, .ok base => if base = 0 ∨ atZero answers.executable then ⟨[], [(0, size)]⟩ else .empty
        | _, _ => .empty

/-- The ledger with everything that the region holds. -/
def hold (region : Region) (ledger : Ledger) : Ledger :=
  ((ledger.openDescriptor region.backing).map region.views.writableBase region.size).map
    region.views.executableBase region.size

/-- How an attempt at a region ends. -/
inductive Attempt (answers : HostAnswers) (size : UInt64) : Except Fault Region → Prop where
  | illSized : IllSized answers size → Attempt answers size (.error (.badSize size))
  | refused {fault : Fault} : ¬ IllSized answers size → answers.refusal? = some fault →
      Attempt answers size (.error fault)
  | made {descriptor : Int} {writable executable : UInt64} : Creatable size →
      answers = ⟨.ok descriptor, .ok (), .ok writable, .ok executable⟩ → writable ≠ 0 → executable ≠ 0 →
        Attempt answers size (.ok ⟨⟨writable, executable, size⟩, descriptor, Bytes.zeros⟩)

section Answers

variable {α : Type} (operation : String) (undo : Ledger → Ledger) (size : UInt64) (ledger : Ledger)

theorem answer_ok (value : α) :
    (answer operation (.ok value)).run ledger = .ok value ledger := rfl

theorem answer_error (errno : Int) : (answer operation (.error errno : Except Int α)).run ledger =
    .error (.ofRefusal operation errno) ledger := rfl

theorem answerOr_ok (value : α) :
    (answerOr undo operation (.ok value)).run ledger = .ok value ledger := rfl

theorem answerOr_error (errno : Int) :
    (answerOr undo operation (.error errno : Except Int α)).run ledger =
      .error (.ofRefusal operation errno) (undo ledger) := rfl

theorem mapped_ok {base : UInt64} (useful : base ≠ 0) :
    (mapped undo operation size (.ok base)).run ledger = .ok base (ledger.map base size) := by
  simp only [mapped, EStateM.run_bind, answerOr_ok, EStateM.run_modify, useful, if_false, EStateM.run_pure]

theorem mapped_zero : (mapped undo operation size (.ok 0)).run ledger =
    .error (.hostExhausted operation Errno.outOfMemory) (undo (ledger.map 0 size)) := by
  simp only [mapped, EStateM.run_bind, answerOr_ok, EStateM.run_modify, if_true, EStateM.run_throw]

theorem mapped_error (errno : Int) : (mapped undo operation size (.error errno)).run ledger =
    .error (.ofRefusal operation errno) (undo ledger) := by
  simp only [mapped, EStateM.run_bind, answerOr_error]

end Answers

/-- The result of an attempt that ends so, in a process that holds what the ledger says. -/
def settled (answers : HostAnswers) (size : UInt64) (ledger : Ledger) :
    Except Fault Region → EStateM.Result Fault Ledger Region
  | .ok region => .ok region (region.hold ledger)
  | .error fault => .error fault (ledger.strand (stranded answers size))

/-- Once the descriptor is open for a size that a file can have, only the host can still refuse. -/
theorem create_opened {size : UInt64} (creatable : Creatable size) (descriptor : Int)
    (resized : Except Int Unit) (written executed : Except Int UInt64) :
    let answers : HostAnswers := ⟨.ok descriptor, resized, written, executed⟩
    ∃ outcome, Attempt answers size outcome ∧
      ∀ ledger, (create answers size).run ledger = settled answers size ledger outcome := by
  intro answers
  have nonempty := creatable.nonempty
  have limited := UInt64.not_le.mpr creatable.limited
  have well : ¬ IllSized answers size := creatable.not_illSized answers
  -- One case for each call that may still be refused; what it undoes is all that was taken before it.
  rcases resized with errno | _
  · refine ⟨_, .refused well rfl, ?_⟩
    intro ledger
    simp [answers, create, settled, stranded, nonempty, limited, answer_ok, answerOr_error]
  rcases written with errno | writable
  · refine ⟨_, .refused well rfl, ?_⟩
    intro ledger
    simp [answers, create, settled, stranded, nonempty, limited, answer_ok, answerOr_ok, mapped_error]
  by_cases null : writable = 0
  · subst null
    refine ⟨_, .refused well rfl, ?_⟩
    intro ledger
    simp [answers, create, settled, stranded, nonempty, limited, answer_ok, answerOr_ok, mapped_zero]
    rfl
  have reported : answers.refusal? = HostAnswers.unmapped "mmap(RX)" executed := by
    simp [answers, HostAnswers.refusal?, HostAnswers.refused, HostAnswers.unmapped, null]
  rcases executed with errno | executable
  · refine ⟨_, .refused well reported, ?_⟩
    intro ledger
    simp [answers, create, settled, stranded, nonempty, limited, null, atZero, answer_ok, answerOr_ok, mapped_ok,
      mapped_error, -bind_pure_comp]
  by_cases none : executable = 0
  · subst none
    refine ⟨_, .refused well reported, ?_⟩
    intro ledger
    have apart := Ledger.unmap_map_of_ne (Ne.symm null)
    simp [answers, create, settled, stranded, nonempty, limited, null, atZero, answer_ok, answerOr_ok, mapped_ok,
      mapped_zero, apart, -bind_pure_comp]
    rfl
  · refine ⟨_, .made creatable rfl null none, ?_⟩
    intro ledger
    simp [answers, create, settled, nonempty, limited, null, none, answer_ok, answerOr_ok, mapped_ok,
      -bind_pure_comp]
    rfl

theorem create_settled (answers : HostAnswers) (size : UInt64) :
    ∃ outcome, Attempt answers size outcome ∧
      ∀ ledger, (create answers size).run ledger = settled answers size ledger outcome := by
  by_cases zero : size = 0
  · refine ⟨_, .illSized (Or.inl zero), ?_⟩
    intro ledger
    cases opened : answers.descriptor <;> simp [create, settled, stranded, zero, opened]
  rcases answers with ⟨errno | descriptor, resized, written, executed⟩
  · refine ⟨_, .refused ?_ rfl, ?_⟩
    · rintro (empty | ⟨_, _, opened⟩)
      · exact zero empty
      · cases opened
    · intro ledger
      simp [create, settled, stranded, zero, answer_error]
  by_cases beyond : fileLimit ≤ size
  · refine ⟨_, .illSized (Or.inr ⟨beyond, descriptor, rfl⟩), ?_⟩
    intro ledger
    simp [create, settled, stranded, zero, beyond, answer_ok]
    rfl
  · exact create_opened ⟨zero, UInt64.not_le.mp beyond⟩ descriptor resized written executed

section Outcomes

variable (answers : HostAnswers) (size : UInt64)

theorem ofAnswers_of_create {outcome : Except Fault Region}
    (ends : (create answers size).run .empty = settled answers size .empty outcome) :
    ofAnswers answers size = outcome := by
  rw [ofAnswers, ends]
  cases outcome <;> rfl

theorem ofAnswers_attempt : Attempt answers size (ofAnswers answers size) := by
  obtain ⟨outcome, attempt, ends⟩ := create_settled answers size
  rwa [ofAnswers_of_create answers size (ends .empty)]

/-- The outcome does not depend on what the process holds already, and what the attempt adds to that is all that
the region holds, or what it has stranded. -/
theorem create_exact (ledger : Ledger) :
    (create answers size).run ledger = settled answers size ledger (ofAnswers answers size) := by
  obtain ⟨outcome, _, ends⟩ := create_settled answers size
  rw [ofAnswers_of_create answers size (ends .empty)]
  exact ends ledger

end Outcomes

/-- A region as it is when it has just been made. -/
structure Made (size : UInt64) (region : Region) : Prop where
  size_eq : region.size = size
  nonempty : size ≠ 0
  limited : size < fileLimit
  content_eq : region.content = Bytes.zeros

section Answered

variable {answers : HostAnswers} {size : UInt64} {fault : Fault} {region : Region}

theorem ofAnswers_made (done : ofAnswers answers size = .ok region) : Made size region := by
  have attempt := ofAnswers_attempt answers size
  rw [done] at attempt
  cases attempt with
  | made creatable => exact ⟨rfl, creatable.nonempty, creatable.limited, rfl⟩

theorem stranded_of_made (done : ofAnswers answers size = .ok region) : stranded answers size = .empty := by
  have attempt := ofAnswers_attempt answers size
  rw [done] at attempt
  cases attempt with
  | made creatable granted useful valid =>
      have nonempty := creatable.nonempty
      have limited := UInt64.not_le.mpr creatable.limited
      simp [granted, stranded, nonempty, limited, useful, valid, atZero]

theorem ofAnswers_illSized (ill : IllSized answers size) : ofAnswers answers size = .error (.badSize size) := by
  have attempt := ofAnswers_attempt answers size
  generalize ofAnswers answers size = outcome at attempt
  cases attempt with
  | illSized => rfl
  | refused well => exact absurd ill well
  | made creatable => exact absurd ill (creatable.not_illSized _)

/-- Unless the size is at fault, an attempt fails exactly if the host refuses a call, and says which. -/
theorem ofAnswers_error_iff (well : ¬ IllSized answers size) :
    ofAnswers answers size = .error fault ↔ answers.refusal? = some fault := by
  have attempt := ofAnswers_attempt answers size
  generalize ofAnswers answers size = outcome at attempt
  cases attempt with
  | illSized ill => exact absurd ill well
  | refused _ reported => rw [reported, Option.some_inj, Except.error.injEq]
  | made _ granted useful valid =>
      simp [granted, HostAnswers.refusal?, HostAnswers.refused, HostAnswers.unmapped, useful, valid]

end Answered

end Region

namespace Slot

theorem fill_filled (placement : Placement) (size : UInt64) (region : Region) :
    fill placement size ⟨some region⟩ = .ok () ⟨some region⟩ := rfl

section Empty

variable {placement : Placement} {size : UInt64}

theorem fill_made {region : Region} (made : Region.ofAnswers (placement size) size = .ok region) :
    fill placement size .empty = .ok () ⟨some region⟩ := by
  simp [fill, isFilled, empty, made]

theorem fill_refused {fault : Fault} (refused : Region.ofAnswers (placement size) size = .error fault) :
    fill placement size .empty = .error fault .empty := by
  simp [fill, isFilled, empty, refused]

end Empty

/-- Filling an empty slot fails and leaves it empty, or it puts a new region there. -/
theorem fill_empty_cases (placement : Placement) (size : UInt64) :
    (∃ fault, fill placement size .empty = .error fault .empty) ∨
      ∃ region, Region.Made size region ∧ fill placement size .empty = .ok () ⟨some region⟩ := by
  cases made : Region.ofAnswers (placement size) size with
  | error fault => exact Or.inl ⟨fault, fill_refused made⟩
  | ok region => exact Or.inr ⟨region, Region.ofAnswers_made made, fill_made made⟩

end Slot

end TwinView
