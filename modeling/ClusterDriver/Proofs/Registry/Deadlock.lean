import ClusterDriver.Proofs.Registry.Movers
import ClusterDriver.Proofs.Registry.Progress
import ClusterDriver.Proofs.Registry.Endings
import ClusterDriver.Proofs.Registry.Tracking
/-!
# Deadlock

Where detection is on, threads that ask for cells never wait for each other in a ring. The claim of
a cell, its entry in the wait graph, the wait of a thread and the end of that wait are separate
actions, and the statements hold between any two of them.
-/
namespace ClusterDriver.Machine
open Relation
variable {T C σ α : Type} [DecidableEq T] [DecidableEq C] {m m₀ : Machine T C σ α} {t u : T} {c : C}
  {schedule : List T}

/-- `t` is blocked on a cell that `u` moved to the state of being built. -/
def WaitsFor (m₀ : Machine T C σ α) (schedule : List T) (t u : T) : Prop :=
  ∃ c, (m₀.runSchedule schedule).BlockedOn t c ∧ m₀.Moved schedule u c

omit [DecidableEq C] in
/-- A thread that holds a cell is at work. -/
theorem running_of_building (h : c ∈ (m.posture t).building) :
    ∃ thread, m.threads.get? t = some thread ∧ ∀ outcome, thread ≠ .done outcome := by
  cases found : m.threads.get? t with
  | none => simp [Machine.posture, found, Posture.building, Posture.held] at h
  | some thread =>
    refine ⟨thread, rfl, ?_⟩
    rintro outcome rfl
    simp [posture_of_get? found, Thread.posture, Posture.building, Posture.held] at h

/-- A thread that is blocked has entered every cell that it holds, so its wait is an edge of the
graph for each thread that is blocked on one of them. -/
theorem waits_of_waitsFor (fresh : m₀.Fresh) (enabled : m₀.detector.isEnabled = true)
    (waits : m₀.WaitsFor schedule t u) {d : C} (blocked : (m₀.runSchedule schedule).BlockedOn u d) :
    (m₀.runSchedule schedule).detector.graph.Waits t u := by
  obtain ⟨c, hblocked, moved⟩ := waits
  have tracked := tracked_runSchedule fresh enabled schedule
  obtain ⟨cells, here⟩ := hblocked.posture
  obtain ⟨cells', there⟩ := blocked.posture
  obtain ⟨r, outer, _, _, building⟩ := hblocked
  obtain ⟨v, mover, held⟩ := mover_of_building fresh schedule building
  obtain rfl := (mover u).1 moved
  have entered : c ∈ ((m₀.runSchedule schedule).roster.posture u).entered := by
    simpa [roster, there, Posture.building, Posture.held] using held
  have awaited : ((m₀.runSchedule schedule).roster.posture t).awaited? = some c := by
    simp [roster, here, Posture.awaited?]
  exact ⟨c, (tracked.waits_on t).trans awaited, (tracked.built_by c u).2 entered⟩

/-- No threads wait for each other in a ring, of whatever length. -/
theorem not_ring (fresh : m₀.Fresh) (enabled : m₀.detector.isEnabled = true) (threads : Set T)
    (nonempty : threads.Nonempty) :
    ¬ ∀ t ∈ threads, ∃ u ∈ threads, m₀.WaitsFor schedule t u := by
  intro ring
  have ends := (tracked_runSchedule fresh enabled schedule).acyclic.wellFounded
  obtain ⟨t, ht, last⟩ := ends.has_min threads nonempty
  obtain ⟨u, hu, waits⟩ := ring t ht
  obtain ⟨v, _, c, blocked, _⟩ := ring u hu
  exact last u hu (waits_of_waitsFor fresh enabled waits blocked)

/-- From a blocked thread, the builders of the cells that are waited for lead to one that can
act. -/
theorem leads_to_running (fresh : m₀.Fresh) (enabled : m₀.detector.isEnabled = true)
    (ungated : m₀.Ungated) (blocked : (m₀.runSchedule schedule).BlockedOn t c) :
    ∃ u, TransGen (m₀.WaitsFor schedule) t u ∧
      (∀ d, ¬ (m₀.runSchedule schedule).BlockedOn u d) ∧
      ((m₀.runSchedule schedule).step u).isSome := by
  have ends := (tracked_runSchedule fresh enabled schedule).acyclic.wellFounded
  induction t using ends.induction generalizing c with
  | _ t ih =>
    obtain ⟨_, _, _, _, building⟩ := id blocked
    obtain ⟨u, mover, held⟩ := mover_of_building fresh schedule building
    have waits : m₀.WaitsFor schedule t u := ⟨c, blocked, (mover u).2 rfl⟩
    by_cases hu : ∃ d, (m₀.runSchedule schedule).BlockedOn u d
    · obtain ⟨d, hd⟩ := hu
      obtain ⟨v, path, free, acts⟩ := ih u (waits_of_waitsFor fresh enabled waits hd) hd
      exact ⟨v, .head waits path, free, acts⟩
    · have free : ∀ d, ¬ (m₀.runSchedule schedule).BlockedOn u d := not_exists.1 hu
      obtain ⟨thread, found, running⟩ := running_of_building held
      have ungated' := ungated_runSchedule ungated schedule
      exact ⟨u, .single waits, free, step_isSome ungated' found running free⟩

/-- When no thread can act any more, every thread is done and no cell is left half built. -/
theorem done_of_stuck (fresh : m₀.Fresh) (enabled : m₀.detector.isEnabled = true)
    (ungated : m₀.Ungated) (stuck : ∀ t, (m₀.runSchedule schedule).step t = none) :
    (∀ t thread, (m₀.runSchedule schedule).threads.get? t = some thread →
      ∃ outcome, thread = .done outcome) ∧
    ∀ c, (m₀.runSchedule schedule).cells c ≠ .building := by
  have free : ∀ t d, ¬ (m₀.runSchedule schedule).BlockedOn t d := by
    intro t d blocked
    obtain ⟨u, _, _, acts⟩ := leads_to_running fresh enabled ungated blocked
    simp [stuck u] at acts
  have done : ∀ t thread, (m₀.runSchedule schedule).threads.get? t = some thread →
      ∃ outcome, thread = .done outcome := by
    intro t thread found
    by_contra running
    have acts := step_isSome (ungated_runSchedule ungated schedule) found
      (not_exists.1 running) (free t)
    simp [stuck t] at acts
  refine ⟨done, fun c building => ?_⟩
  obtain ⟨t, _, held⟩ := mover_of_building fresh schedule building
  obtain ⟨thread, found, running⟩ := running_of_building held
  obtain ⟨outcome, hdone⟩ := done t thread found
  exact running outcome hdone

/-- Deadlock freedom. Following blocked threads to the builders of their cells leads to a thread
that can act; no set of threads waits within itself; a cell that is being built has one thread that
claimed it and is on its way to publish it; and where every thread gets its turns the run comes to
its end, with all threads done and all claimed cells published. -/
theorem deadlock_free [Finite C] (m₀ : Machine T C σ α) (fresh : m₀.Fresh)
    (enabled : m₀.detector.isEnabled = true) (ungated : m₀.Ungated) (schedule : List T) :
    let m := m₀.runSchedule schedule
    (∀ t c, m.BlockedOn t c →
      ∃ u, TransGen (m₀.WaitsFor schedule) t u ∧ (∀ d, ¬ m.BlockedOn u d) ∧ (m.step u).isSome) ∧
    (∀ threads : Set T, threads.Nonempty →
      ¬ ∀ t ∈ threads, ∃ u ∈ threads, m₀.WaitsFor schedule t u) ∧
    (∀ c, m.cells c = .building →
      ∃ t, (∀ u, m₀.Moved schedule u c ↔ u = t) ∧ c ∈ (m.posture t).building) ∧
    ∀ turns, m.FairTurns turns → ∃ n,
      (∀ t thread, (m.runSchedule (firstTurns turns n)).threads.get? t = some thread →
        ∃ outcome, thread = .done outcome) ∧
      ∀ c, (m.runSchedule (firstTurns turns n)).cells c ≠ .building := by
  intro m
  refine ⟨?_, ?_, ?_, ?_⟩
  · exact fun t c blocked => leads_to_running fresh enabled ungated blocked
  · exact fun threads nonempty => not_ring fresh enabled threads nonempty
  · exact fun c building => mover_of_building fresh schedule building
  · intro turns fair
    obtain ⟨n, stuck⟩ := fair_turns_end m turns fair
    have whole : m.runSchedule (firstTurns turns n) =
        m₀.runSchedule (schedule ++ firstTurns turns n) := (runSchedule_append m₀ schedule _).symm
    rw [whole] at stuck
    exact ⟨n, whole ▸ done_of_stuck fresh enabled ungated stuck⟩

theorem crossing_blocked : (crossing.runSchedule crossed).BlockedOn false true := by
  refine ⟨⟨true, Program.ofResult⟩, [⟨false, Program.ofResult⟩], ?_, rfl, ?_⟩ <;> cbv

theorem crossing_ungated : crossing.Ungated where
  cells c builder hc := by
    cases hc
    exact Program.ungated_ask _
  threads t thread found := by
    obtain ⟨program, rfl⟩ := crossing_fresh.threads t thread found
    cases t with
    | false =>
      cases Option.some.inj found
      exact ⟨Program.ungated_ask _, fun r hr => absurd hr List.not_mem_nil⟩
    | true =>
      cases Option.some.inj found
      exact ⟨Program.ungated_ask _, fun r hr => absurd hr List.not_mem_nil⟩

theorem crossing_leads_to_running : crossing.Fresh ∧ crossing.detector.isEnabled = true ∧
    crossing.Ungated ∧ ∃ u, TransGen (crossing.WaitsFor crossed) false u ∧
      (∀ d, ¬ (crossing.runSchedule crossed).BlockedOn u d) ∧
      ((crossing.runSchedule crossed).step u).isSome :=
  ⟨crossing_fresh, rfl, crossing_ungated,
    (deadlock_free crossing crossing_fresh rfl crossing_ungated crossed).1 false true
      crossing_blocked⟩

end ClusterDriver.Machine
