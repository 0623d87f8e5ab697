import Mathlib.Data.List.Induction
import TwinView.Contention.Schedule

/-!
Which step of a run something goes back to. What holds of a system now and did not hold at first goes back to
the latest step that brought it about, and every step since then has let it be.
-/

namespace TwinView.Contention

variable {Choice System : Type}

/-- In the run such a step was taken, and since then only steps that let its outcome be. -/
def Latest (next : Steps Choice System) (first : System) (taken : List (Nat × Choice))
    (Brings : System → Nat × Choice → Prop) (Spares : Nat × Choice → Prop) : Prop :=
  ∃ earlier step between asked, taken = earlier ++ step :: between ∧
    run next earlier first = some asked ∧ Brings asked step ∧ ∀ other ∈ between, Spares other

section Steps

variable {next : Steps Choice System} {first asked last : System} {taken : List (Nat × Choice)}
  {step : Nat × Choice} {Brings : System → Nat × Choice → Prop} {Spares : Nat × Choice → Prop}

theorem Latest.now (ran : run next taken first = some asked) (brings : Brings asked step) :
    Latest next first (taken ++ [step]) Brings Spares :=
  ⟨taken, step, [], asked, rfl, ran, brings, nofun⟩

theorem Latest.snoc (latest : Latest next first taken Brings Spares) (spares : Spares step) :
    Latest next first (taken ++ [step]) Brings Spares := by
  obtain ⟨earlier, cause, between, asked, rfl, asking, brings, spared⟩ := latest
  refine ⟨earlier, cause, between ++ [step], asked, by simp, asking, brings, ?_⟩
  intro other member
  rcases List.mem_append.mp member with member | member
  · exact spared other member
  · cases List.mem_singleton.mp member
    exact spares

theorem latest_of_holds (Holds : System → Prop) (never : ¬ Holds first)
    (traced : ∀ earlier thread choice before after, run next earlier first = some before →
      next thread choice before = some after → Holds after →
        Brings before (thread, choice) ∨ Holds before ∧ Spares (thread, choice))
    (ran : run next taken first = some last) (holds : Holds last) :
    Latest next first taken Brings Spares := by
  -- From the end: what holds was brought about by the last step, or held before it already.
  induction taken using List.reverseRecOn generalizing last with
  | nil =>
      cases ran
      exact absurd holds never
  | append_singleton taken step ih =>
      obtain ⟨thread, choice⟩ := step
      rw [run_snoc] at ran
      obtain ⟨before, reaching, moves⟩ := Option.bind_eq_some_iff.mp ran
      rcases traced taken thread choice before last reaching moves holds with brings | ⟨held, spares⟩
      · exact Latest.now reaching brings
      · exact (ih reaching held).snoc spares

end Steps

end TwinView.Contention
