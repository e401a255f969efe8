import ClusterDriver.Proofs.Registry.Tracking
import ClusterDriver.Proofs.Registry.Calls
/-!
# Bookkeeping

The three tables of the detector agree with each other at every moment, and a request leaves nothing
behind in them. However a request ends, the thread has the same stack again and waits for nothing;
while no request is under way, the tables are empty. That no empty stack is kept holds of the tables
alone, and is proved first.
-/
namespace ClusterDriver

namespace WaitGraph
variable {T C : Type} [DecidableEq T] [DecidableEq C] {g : WaitGraph T C}

/-- Only stacks with a cell on them are kept. -/
def Trimmed (g : WaitGraph T C) : Prop := ∀ t cells, g.frames.get? t = some cells → cells ≠ []

theorem Trimmed.enter (trimmed : g.Trimmed) (t : T) (c : C) : (g.enter t c).Trimmed := by
  intro u cells found
  rw [WaitGraph.enter, Table.get?_insert] at found
  split at found
  · rw [← Option.some.inj found]
    simp
  · exact trimmed u cells found

theorem Trimmed.leave (trimmed : g.Trimmed) (t : T) (c : C) : (g.leave t c).Trimmed := by
  intro u cells found
  cases kept : g.frames.get? t with
  | none =>
    simp only [WaitGraph.leave, kept] at found
    exact trimmed u cells found
  | some old =>
    by_cases last : removeLast c old = []
    · simp only [WaitGraph.leave, kept, last, List.isEmpty_nil, if_true, Table.get?_erase] at found
      split at found
      · cases found
      · exact trimmed u cells found
    · simp only [WaitGraph.leave, kept, List.isEmpty_iff, last, if_false,
        Table.get?_insert] at found
      split at found
      · exact Option.some.inj found ▸ last
      · exact trimmed u cells found

theorem eq_empty (building : ∀ c, g.building.get? c = none)
    (waiting : ∀ t, g.waiting.get? t = none) (frames : ∀ t, g.frames.get? t = none) : g = {} := by
  obtain ⟨b, w, f⟩ := g
  obtain rfl := Table.eq_empty building
  obtain rfl := Table.eq_empty waiting
  obtain rfl := Table.eq_empty frames
  rfl

end WaitGraph

theorem Roster.Tracked.trimmed_move {T C : Type} [DecidableEq T] [DecidableEq C]
    {s s' : Roster T C} {t : T} (tracked : s.Tracked) (trimmed : s.detector.graph.Trimmed)
    (h : Roster.Move t s s') : s'.detector.graph.Trimmed := by
  cases h with
  | pass | claim | publish => exact trimmed
  | wait _ allowed =>
    obtain ⟨_, rfl⟩ := Roster.request_eq_ok tracked allowed
    exact trimmed
  | release | clear =>
    change (s.detector.stopWaiting t).graph.Trimmed
    rw [Detector.stopWaiting, if_pos tracked.enabled]
    exact trimmed
  | @enter _ c _ =>
    change (s.detector.enter t c).graph.Trimmed
    rw [Detector.enter, if_pos tracked.enabled]
    exact trimmed.enter t c
  | @leave _ c _ =>
    change (s.detector.leave t c).graph.Trimmed
    rw [Detector.leave, if_pos tracked.enabled]
    exact trimmed.leave t c

namespace Machine
variable {T C σ α : Type} [DecidableEq T] [DecidableEq C] {m m' m₀ : Machine T C σ α} {t : T}

theorem trimmed_runSchedule (fresh : m₀.Fresh) (enabled : m₀.detector.isEnabled = true)
    (schedule : List T) : (m₀.runSchedule schedule).detector.graph.Trimmed := by
  refine runSchedule_induction (P := fun m => m.detector.graph.Trimmed) ?_ ?_ schedule
  · intro t cells found
    simp [fresh.graph] at found
  · intro before t thread m' trimmed found turn
    exact (tracked_runSchedule fresh enabled before).trimmed_move trimmed (roster_turn found turn)

/-- The tables agree with each other, and only requests under way are registered as waits. -/
structure WellRecorded (m : Machine T C σ α) : Prop where
  building_iff : ∀ c t, m.detector.graph.building.get? c = some t ↔ c ∈ m.detector.stack t
  nodup : ∀ t, (m.detector.stack t).Nodup
  unique : ∀ t u c, c ∈ m.detector.stack t → c ∈ m.detector.stack u → t = u
  trimmed : m.detector.graph.Trimmed
  waiting : ∀ t c, m.detector.graph.waiting.get? t = some c →
    ∃ stage r outer, m.threads.get? t = some (.request stage r outer) ∧ r.cell = c

omit [DecidableEq C] in
/-- A thread with a wait is inside a request for the cell. -/
theorem request_of_awaited {c : C} (awaited : (m.posture t).awaited? = some c) :
    ∃ stage r outer, m.threads.get? t = some (.request stage r outer) ∧ r.cell = c := by
  cases found : m.threads.get? t with
  | none => simp [posture, found, Posture.awaited?] at awaited
  | some thread =>
    rw [posture_of_get? found] at awaited
    cases thread with
    | run | done => simp [Thread.posture, Posture.awaited?] at awaited
    | request stage r outer =>
      refine ⟨stage, r, outer, rfl, ?_⟩
      cases stage with
      | inspect | served | claimed => simpa [Thread.posture, Posture.awaited?] using awaited
      | check | register | cleared | ended | published =>
        simp [Thread.posture, Posture.awaited?] at awaited

theorem wellRecorded_runSchedule (fresh : m₀.Fresh) (enabled : m₀.detector.isEnabled = true)
    (schedule : List T) : (m₀.runSchedule schedule).WellRecorded := by
  have tracked := tracked_runSchedule fresh enabled schedule
  have owned := owned_runSchedule fresh schedule
  have entered : ∀ t c, c ∈ (m₀.runSchedule schedule).detector.stack t ↔
      c ∈ ((m₀.runSchedule schedule).posture t).entered := by
    intro t c
    exact (tracked.on_stack c t).symm.trans (tracked.built_by c t)
  constructor
  · exact fun c t => tracked.on_stack c t
  · intro t
    have reversed := List.nodup_reverse.2 (owned.entered_nodup t)
    rwa [← tracked.stack_eq t] at reversed
  · intro t u c ht hu
    exact owned.unique t u c (Posture.held_of_mem_entered ((entered t c).1 ht))
      (Posture.held_of_mem_entered ((entered u c).1 hu))
  · exact trimmed_runSchedule fresh enabled schedule
  · intro t c found
    exact request_of_awaited ((tracked.waits_on t).symm.trans found)

/-- A thread that runs a program has no wait, and its stack is that of the requests around it. -/
theorem recorded_of_run (fresh : m₀.Fresh) (enabled : m₀.detector.isEnabled = true)
    (schedule : List T) {outer : List (Request T C σ α)} {program : Program T C σ α}
    (found : (m₀.runSchedule schedule).threads.get? t = some (.run outer program)) :
    (m₀.runSchedule schedule).detector.stack t = (outer.map Request.cell).reverse ∧
      (m₀.runSchedule schedule).detector.graph.waiting.get? t = none := by
  have tracked := tracked_runSchedule fresh enabled schedule
  have here : (m₀.runSchedule schedule).roster.posture t = ⟨outer.map Request.cell, .none⟩ :=
    posture_of_get? found
  have stack := tracked.stack_eq t
  have waits := tracked.waits_on t
  rw [here] at stack waits
  exact ⟨stack, waits⟩

/-- While no request is under way, the tables are empty. -/
theorem graph_of_idle (fresh : m₀.Fresh) (enabled : m₀.detector.isEnabled = true)
    (schedule : List T)
    (idle : ∀ t thread, (m₀.runSchedule schedule).threads.get? t = some thread →
      thread.calls = []) : (m₀.runSchedule schedule).detector.graph = {} := by
  have tracked := tracked_runSchedule fresh enabled schedule
  have trimmed := trimmed_runSchedule fresh enabled schedule
  have posture : ∀ t, (m₀.runSchedule schedule).roster.posture t = ⟨[], .none⟩ :=
    fun t => posture_of_idle (idle t)
  refine WaitGraph.eq_empty (fun c => ?_) (fun t => ?_) fun t => ?_
  · refine Option.eq_none_iff_forall_ne_some.2 fun t built => ?_
    have entered := (tracked.built_by c t).1 built
    simp [posture] at entered
  · have waits := tracked.waits_on t
    rwa [posture] at waits
  · refine Option.eq_none_iff_forall_ne_some.2 fun cells kept => ?_
    have kept' : (m₀.runSchedule schedule).roster.detector.graph.frames.get? t = some cells := kept
    have stack := tracked.stack_eq t
    rw [posture] at stack
    exact trimmed t cells kept (by simpa [WaitGraph.stack, kept'] using stack)

/-- The tables agree with each other at every moment. However a request ends, whether it is answered
from the cell, refused, or answered or unwound after its builder ran, its thread has the same stack
as when it made the request and waits for nothing. While no request is under way, the tables are
empty. -/
theorem bookkeeping_restored (fresh : m₀.Fresh) (enabled : m₀.detector.isEnabled = true)
    (schedule : List T) :
    (m₀.runSchedule schedule).WellRecorded ∧
    (∀ t outer c next later u,
      (m₀.runSchedule schedule).threads.get? t = some (.run outer (.get c next)) →
      let m := m₀.runSchedule (schedule ++ t :: later)
      let m' := m₀.runSchedule (schedule ++ t :: later ++ [u])
      m.Inside t (⟨c, next⟩ :: outer) → ¬ m'.Inside t (⟨c, next⟩ :: outer) →
      m.Returns m' t ⟨c, next⟩ outer ∧
      m'.detector.stack t = (m₀.runSchedule schedule).detector.stack t ∧
      m'.detector.graph.waiting.get? t = none) ∧
    ((∀ t thread, (m₀.runSchedule schedule).threads.get? t = some thread → thread.calls = []) →
      (m₀.runSchedule schedule).detector.graph = {}) := by
  refine ⟨wellRecorded_runSchedule fresh enabled schedule, ?_, graph_of_idle fresh enabled schedule⟩
  intro t outer c next later u asks m m' inside left
  have returns : m.Returns m' t ⟨c, next⟩ outer := by
    have after : m' = (m.step u).getD m := runSchedule_concat m₀ _ u
    rw [after] at left ⊢
    exact returns_of_step inside left
  obtain ⟨program, found⟩ : ∃ program, m'.threads.get? t = some (.run outer program) := by
    rcases returns with ⟨result, _, found⟩ | ⟨_, found⟩
    · exact ⟨_, found⟩
    · exact ⟨_, found⟩
  have recorded := recorded_of_run fresh enabled _ found
  exact ⟨returns, recorded.1.trans (recorded_of_run fresh enabled schedule asks).1.symm, recorded.2⟩

/-- The second thread is refused while it builds its cell. -/
theorem crossing_restored :
    let m := crossing.runSchedule (crossed ++ [true, true])
    let m' := crossing.runSchedule (crossed ++ [true, true] ++ [true])
    crossing.Fresh ∧ crossing.detector.isEnabled = true ∧
    m.Returns m' true ⟨false, Program.ofResult⟩ [⟨true, Program.ofResult⟩] ∧
    m'.detector.stack true = (crossing.runSchedule crossed).detector.stack true ∧
    m'.detector.stack true = [true] ∧
    m'.detector.graph.waiting.get? true = none := by
  have asks : (crossing.runSchedule crossed).threads.get? true =
      some (.run [⟨true, Program.ofResult⟩] (.get false Program.ofResult)) := by cbv
  have inside : (crossing.runSchedule (crossed ++ [true, true])).Inside true
      [⟨false, Program.ofResult⟩, ⟨true, Program.ofResult⟩] :=
    ⟨.request .register ⟨false, Program.ofResult⟩ [⟨true, Program.ofResult⟩], by cbv,
      List.suffix_rfl⟩
  have goesOn : (crossing.runSchedule (crossed ++ [true, true] ++ [true])).threads.get? true =
      some (.run [⟨true, Program.ofResult⟩]
        (.fail (.ofAccess (.cycle ["b", "a", "b"])))) := by cbv
  have left : ¬ (crossing.runSchedule (crossed ++ [true, true] ++ [true])).Inside true
      [⟨false, Program.ofResult⟩, ⟨true, Program.ofResult⟩] := by
    rintro ⟨thread, found, suffix⟩
    obtain rfl := Option.some.inj (goesOn.symm.trans found)
    exact absurd suffix.length_le (by simp [Thread.calls])
  have restored := (bookkeeping_restored crossing_fresh rfl crossed).2.1 true
    [⟨true, Program.ofResult⟩] false Program.ofResult [true] true asks
  obtain ⟨returns, stack, idle⟩ := restored inside left
  have building : (crossing.runSchedule crossed).detector.stack true = [true] := by cbv
  exact ⟨crossing_fresh, rfl, returns, stack, stack.trans building, idle⟩

end Machine
end ClusterDriver
