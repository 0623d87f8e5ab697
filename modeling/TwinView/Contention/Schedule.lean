/-!
Threads that share a system. A schedule names the thread that takes the next step and settles what the step
leaves open. A thread may be unable to take a step, and a schedule that asks for it leads nowhere.
-/

namespace TwinView.Contention

/-- The system after a step of a thread, or nothing where the thread cannot take the step. -/
abbrev Steps (Choice System : Type) := Nat → Choice → System → Option System

variable {Choice System Phase : Type}

def run (next : Steps Choice System) : List (Nat × Choice) → System → Option System
  | [], system => some system
  | (thread, choice) :: rest, system => (next thread choice system).bind (run next rest)

/-- Where each thread stands, after one of them has moved. -/
def moved (phases : Nat → Phase) (thread : Nat) (phase : Phase) : Nat → Phase :=
  fun other => if other = thread then phase else phases other

theorem moved_self (phases : Nat → Phase) (thread : Nat) (phase : Phase) :
    moved phases thread phase thread = phase := by
  simp [moved]

theorem moved_other (phases : Nat → Phase) {thread other : Nat} (phase : Phase)
    (different : other ≠ thread) : moved phases thread phase other = phases other := by
  simp [moved, different]

theorem moved_moved (phases : Nat → Phase) (thread : Nat) (earlier later : Phase) :
    moved (moved phases thread earlier) thread later = moved phases thread later := by
  funext other
  by_cases same : other = thread <;> simp [moved, same]

theorem run_append (next : Steps Choice System) (first second : List (Nat × Choice))
    (system : System) :
    run next (first ++ second) system = (run next first system).bind (run next second) := by
  induction first generalizing system with
  | nil => rfl
  | cons step rest ih =>
      obtain ⟨thread, choice⟩ := step
      simp only [List.cons_append, run]
      cases next thread choice system with
      | none => rfl
      | some after => exact ih after

theorem run_snoc (next : Steps Choice System) (taken : List (Nat × Choice)) (thread : Nat)
    (choice : Choice) (system : System) :
    run next (taken ++ [(thread, choice)]) system =
      (run next taken system).bind (next thread choice) := by
  have single : run next [(thread, choice)] = next thread choice := by
    funext before
    exact Option.bind_fun_some _
  rw [run_append, single]

/-- What every step keeps, every run keeps. -/
theorem run_keeps {next : Steps Choice System} (Holds : System → Prop)
    (kept : ∀ {thread choice before after}, next thread choice before = some after →
      Holds before → Holds after)
    {taken : List (Nat × Choice)} {first last : System} (ran : run next taken first = some last)
    (holds : Holds first) : Holds last := by
  induction taken generalizing first with
  | nil =>
      cases ran
      exact holds
  | cons step rest ih =>
      obtain ⟨thread, choice⟩ := step
      obtain ⟨between, moves, ran⟩ := Option.bind_eq_some_iff.mp ran
      exact ih ran (kept moves holds)

end TwinView.Contention
