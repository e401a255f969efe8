import ClusterDriver.Proofs.Registry.Contracts
import ClusterDriver.Proofs.Registry.Deadlock
/-!
# Grounded contracts

Under a contract by which no chain of dependencies goes on for ever, threads never wait for each
other in a ring, whether detection is on or off. So where every thread gets its turns, all of them
come to their end.
-/
namespace ClusterDriver
open Relation
variable {T C σ α : Type} {k : Contract C α}

def Contract.Grounded (k : Contract C α) : Prop := WellFounded fun d c => k.depends c d

namespace Machine
variable [DecidableEq T] [DecidableEq C] {m m₀ : Machine T C σ α} {t : T} {c d : C}
  {schedule : List T}

omit [DecidableEq C] in
/-- What a blocked thread is building depends on the cell that it is blocked on. -/
theorem Keeping.depends_of_blocked (keeping : m.Keeping k) (blocked : m.BlockedOn t d)
    (held : c ∈ (m.posture t).building) : TransGen k.depends c d := by
  obtain ⟨r, outer, found, rfl, _⟩ := blocked
  rw [posture_of_get? found] at held
  exact (keeping.threads t _ found).2.depends held

/-- Following the builders of the cells that are waited for goes down the dependencies, to a thread
that can act. -/
theorem not_blocked_of_stuck (fresh : m₀.Fresh) (under : m₀.Under k) (grounded : k.Grounded)
    (ungated : m₀.Ungated) (stuck : ∀ t, (m₀.runSchedule schedule).step t = none) :
    ¬ (m₀.runSchedule schedule).BlockedOn t c := by
  -- Down the dependencies: who builds a cell can act, or is blocked on one that the cell needs.
  induction c using grounded.transGen.induction generalizing t with
  | _ c ih =>
    intro blocked
    obtain ⟨_, _, _, _, building⟩ := id blocked
    obtain ⟨u, _, held⟩ := mover_of_building fresh schedule building
    by_cases free : ∀ d, ¬ (m₀.runSchedule schedule).BlockedOn u d
    · obtain ⟨thread, found, running⟩ := running_of_building held
      have acts := step_isSome (ungated_runSchedule ungated schedule) found running free
      simp [stuck u] at acts
    · obtain ⟨d, waits⟩ := not_forall_not.1 free
      have keeping := keeping_runSchedule fresh under schedule
      exact ih d (transGen_swap.2 (keeping.depends_of_blocked waits held)) waits

theorem done_of_grounded (fresh : m₀.Fresh) (under : m₀.Under k) (grounded : k.Grounded)
    (ungated : m₀.Ungated) (stuck : ∀ t, (m₀.runSchedule schedule).step t = none)
    {thread : Thread T C σ α}
    (found : (m₀.runSchedule schedule).threads.get? t = some thread) :
    ∃ outcome, thread = .done outcome := by
  by_contra running
  have acts := step_isSome (ungated_runSchedule ungated schedule) found (not_exists.1 running)
    fun d => not_blocked_of_stuck fresh under grounded ungated stuck
  simp [stuck t] at acts

/-- No thread goes away. -/
theorem present_runSchedule (schedule : List T) {thread : Thread T C σ α}
    (found : m₀.threads.get? t = some thread) :
    ∃ now, (m₀.runSchedule schedule).threads.get? t = some now := by
  refine runSchedule_induction (P := fun m => ∃ now, m.threads.get? t = some now) ⟨thread, found⟩
    ?_ schedule
  rintro before u other m' ⟨now, there⟩ _ turn
  by_cases hu : t = u
  · subst hu
    exact present_of_turn turn
  · exact ⟨now, (threads_turn turn hu).trans there⟩

/-- Where every thread gets its turns, each comes to its end. -/
theorem ends_of_grounded [Finite C] (fresh : m₀.Fresh) (under : m₀.Under k)
    (grounded : k.Grounded) (ungated : m₀.Ungated) {turns : Nat → T}
    (fair : (m₀.runSchedule schedule).FairTurns turns) {thread : Thread T C σ α}
    (found : m₀.threads.get? t = some thread) :
    ∃ n outcome, (m₀.runSchedule (schedule ++ firstTurns turns n)).threads.get? t =
      some (.done outcome) := by
  obtain ⟨n, stuck⟩ := fair_turns_end _ turns fair
  rw [← runSchedule_append] at stuck
  obtain ⟨now, there⟩ := present_runSchedule (schedule ++ firstTurns turns n) found
  obtain ⟨outcome, rfl⟩ := done_of_grounded fresh under grounded ungated stuck there
  exact ⟨n, outcome, there⟩

end Machine
end ClusterDriver
