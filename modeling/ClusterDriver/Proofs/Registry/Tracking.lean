import ClusterDriver.Proofs.Registry.Ownership
import ClusterDriver.Proofs.Registry.WaitCycles
/-!
# Tracking

Where detection is on, the wait graph says of every thread which cells it has entered and which one
it is registered to wait for, at every moment, and no thread waits for itself through others.
-/
namespace ClusterDriver
open Function

structure Roster.Tracked {T C : Type} [DecidableEq T] [DecidableEq C] (s : Roster T C) : Prop where
  enabled : s.detector.isEnabled = true
  built_by : ∀ c t, s.detector.graph.building.get? c = some t ↔ c ∈ (s.posture t).entered
  waits_on : ∀ t, s.detector.graph.waiting.get? t = (s.posture t).awaited?
  stack_eq : ∀ t, s.detector.graph.stack t = (s.posture t).entered.reverse
  acyclic : s.detector.graph.Acyclic

namespace Roster
variable {T C : Type} [DecidableEq T] [DecidableEq C] {s s' : Roster T C} {t : T}

theorem Tracked.on_stack (tracked : s.Tracked) (c : C) (t : T) :
    s.detector.graph.building.get? c = some t ↔ c ∈ s.detector.graph.stack t := by
  rw [tracked.built_by, tracked.stack_eq, List.mem_reverse]

/-- A posture with the same entered cells and the same wait. -/
theorem Tracked.of_update (tracked : s.Tracked) {p : Posture C}
    (entered : p.entered = (s.posture t).entered) (awaited : p.awaited? = (s.posture t).awaited?)
    (posture : s'.posture = update s.posture t p) (detector : s'.detector = s.detector) :
    s'.Tracked := by
  have entered_same : ∀ u, (s'.posture u).entered = (s.posture u).entered := by
    intro u
    rw [posture]
    exact update_apply_of Posture.entered entered u
  have awaited_same : ∀ u, (s'.posture u).awaited? = (s.posture u).awaited? := by
    intro u
    rw [posture]
    exact update_apply_of Posture.awaited? awaited u
  constructor
  · simpa only [detector] using tracked.enabled
  · simpa only [detector, entered_same] using tracked.built_by
  · simpa only [detector, awaited_same] using tracked.waits_on
  · simpa only [detector, entered_same] using tracked.stack_eq
  · simpa only [detector] using tracked.acyclic

theorem request_eq_ok (tracked : s.Tracked) {c : C} {detector : Detector T C}
    (allowed : s.detector.request t c = .ok detector) :
    s.detector.graph.closing? t c = none ∧
      detector = { s.detector with graph := s.detector.graph.wait t c } := by
  unfold Detector.request at allowed
  rw [if_pos tracked.enabled] at allowed
  split at allowed
  · cases allowed
  · next free => exact ⟨free, (Except.ok.inj allowed).symm⟩

theorem Tracked.wait (tracked : s.Tracked) {cells : List C} {c : C} {detector : Detector T C}
    (here : s.posture t = ⟨cells, .none⟩) (allowed : s.detector.request t c = .ok detector) :
    Tracked { s with posture := update s.posture t ⟨cells, .waiting c⟩, detector } := by
  obtain ⟨free, rfl⟩ := request_eq_ok tracked allowed
  have entered_same : ∀ u, (update s.posture t ⟨cells, .waiting c⟩ u).entered =
      (s.posture u).entered :=
    fun u => update_apply_of Posture.entered (by rw [here]) u
  constructor
  · exact tracked.enabled
  · exact fun d u => by simpa [entered_same] using tracked.built_by d u
  · intro u
    by_cases hu : u = t
    · subst hu
      simp [WaitGraph.wait, Posture.awaited?]
    · simpa [WaitGraph.wait, Table.get?_insert_of_ne _ (Ne.symm hu), hu] using tracked.waits_on u
  · exact fun u => by simpa [entered_same] using tracked.stack_eq u
  · exact WaitGraph.acyclic_wait tracked.acyclic (fun d hd => (tracked.on_stack d t).1 hd) free

/-- The wait of a thread is taken back. -/
theorem Tracked.stopWaiting (tracked : s.Tracked) {p : Posture C}
    (entered : p.entered = (s.posture t).entered) (idle : p.awaited? = none) :
    Tracked { s with posture := update s.posture t p, detector := s.detector.stopWaiting t } := by
  have entered_same : ∀ u, (update s.posture t p u).entered = (s.posture u).entered :=
    fun u => update_apply_of Posture.entered entered u
  have hdetector : s.detector.stopWaiting t =
      { s.detector with graph := s.detector.graph.stopWaiting t } := if_pos tracked.enabled
  rw [hdetector]
  constructor
  · exact tracked.enabled
  · exact fun d u => by simpa [entered_same] using tracked.built_by d u
  · intro u
    by_cases hu : u = t
    · subst hu
      simp [WaitGraph.stopWaiting, idle]
    · simpa [WaitGraph.stopWaiting, Table.get?_erase_of_ne _ (Ne.symm hu), hu] using
        tracked.waits_on u
  · exact fun u => by simpa [entered_same] using tracked.stack_eq u
  · exact WaitGraph.acyclic_stopWaiting tracked.acyclic t

theorem Tracked.enter (tracked : s.Tracked) (owned : s.Owned) {cells : List C} {c : C}
    (here : s.posture t = ⟨cells, .cleared c⟩) :
    Tracked { s with
      posture := update s.posture t ⟨c :: cells, .none⟩
      detector := s.detector.enter t c } := by
  have hdetector : s.detector.enter t c =
      { s.detector with graph := s.detector.graph.enter t c } := if_pos tracked.enabled
  have c_held : c ∈ (s.posture t).held := by simp [here, Posture.held]
  have hstack : s.detector.graph.stack t = cells.reverse := by rw [tracked.stack_eq, here]
  rw [hdetector]
  constructor
  · exact tracked.enabled
  · intro d u
    have old := tracked.built_by d u
    by_cases hdc : d = c
    · subst hdc
      by_cases hu : u = t
      · subst hu
        simp [WaitGraph.enter]
      · have unentered : d ∉ (s.posture u).entered := fun hd =>
          hu (owned.unique u t d (Posture.held_of_mem_entered hd) c_held)
        simp [WaitGraph.enter, hu, Ne.symm hu, unentered]
    · by_cases hu : u = t
      · subst hu
        simpa [WaitGraph.enter, Table.get?_insert_of_ne _ (Ne.symm hdc), hdc, here] using old
      · simpa [WaitGraph.enter, Table.get?_insert_of_ne _ (Ne.symm hdc), hu] using old
  · intro u
    by_cases hu : u = t
    · subst hu
      simp [WaitGraph.enter, Posture.awaited?]
    · simpa [WaitGraph.enter, Table.get?_erase_of_ne _ (Ne.symm hu), hu] using tracked.waits_on u
  · intro u
    by_cases hu : u = t
    · subst hu
      simp [WaitGraph.stack_enter, hstack]
    · simpa [WaitGraph.stack_enter, hu] using tracked.stack_eq u
  · exact WaitGraph.acyclic_enter tracked.acyclic t c

theorem Tracked.leave (tracked : s.Tracked) (owned : s.Owned) {cells : List C} {c : C}
    (here : s.posture t = ⟨c :: cells, .published⟩) :
    Tracked { s with
      posture := update s.posture t ⟨cells, .none⟩
      detector := s.detector.leave t c } := by
  have hdetector : s.detector.leave t c =
      { s.detector with graph := s.detector.graph.leave t c } := if_pos tracked.enabled
  have c_held : c ∈ (s.posture t).held := by simp [here, Posture.held]
  have c_once : c ∉ cells := by
    have hnodup := owned.nodup t
    simp only [here, Posture.held] at hnodup
    exact (List.nodup_cons.1 hnodup).1
  have hstack : s.detector.graph.stack t = cells.reverse ++ [c] := by
    rw [tracked.stack_eq, here, List.reverse_cons]
  rw [hdetector]
  constructor
  · exact tracked.enabled
  · intro d u
    have old := tracked.built_by d u
    by_cases hdc : d = c
    · subst hdc
      by_cases hu : u = t
      · subst hu
        simp [WaitGraph.leave, c_once]
      · have unentered : d ∉ (s.posture u).entered := fun hd =>
          hu (owned.unique u t d (Posture.held_of_mem_entered hd) c_held)
        simp [WaitGraph.leave, hu, unentered]
    · by_cases hu : u = t
      · subst hu
        simpa [WaitGraph.leave, Table.get?_erase_of_ne _ (Ne.symm hdc), hdc, here] using old
      · simpa [WaitGraph.leave, Table.get?_erase_of_ne _ (Ne.symm hdc), hu] using old
  · intro u
    by_cases hu : u = t
    · subst hu
      simpa [Posture.awaited?, here] using tracked.waits_on u
    · simpa [hu] using tracked.waits_on u
  · intro u
    by_cases hu : u = t
    · subst hu
      simp [WaitGraph.stack_leave, hstack, WaitGraph.removeLast_append_self]
    · simpa [WaitGraph.stack_leave, hu] using tracked.stack_eq u
  · exact WaitGraph.acyclic_leave tracked.acyclic t c

theorem Tracked.move (tracked : s.Tracked) (owned : s.Owned) (h : Move t s s') : s'.Tracked := by
  cases h with
  | pass => exact tracked
  | wait here allowed => exact tracked.wait here allowed
  | release here => exact tracked.stopWaiting (by rw [here]) rfl
  | claim here free => exact tracked.of_update (by rw [here]) (by rw [here]; rfl) rfl rfl
  | clear here => exact tracked.stopWaiting (by rw [here]) rfl
  | enter here => exact tracked.enter owned here
  | publish here complete => exact tracked.of_update (by rw [here]) (by rw [here]; rfl) rfl rfl
  | leave here => exact tracked.leave owned here

end Roster

namespace Machine
variable {T C σ α : Type} [DecidableEq T] [DecidableEq C] {m₀ : Machine T C σ α}

theorem Fresh.tracked (fresh : m₀.Fresh) (enabled : m₀.detector.isEnabled = true) :
    m₀.roster.Tracked := by
  have posture : ∀ t, m₀.roster.posture t = ⟨[], .none⟩ := fresh.posture
  have graph : m₀.roster.detector.graph = {} := fresh.graph
  constructor
  · exact enabled
  · exact fun c t => by simp [graph, posture]
  · exact fun t => by simp [graph, posture, Posture.awaited?]
  · exact fun t => by simp [graph, posture, WaitGraph.stack]
  · intro t cycle
    obtain ⟨u, ⟨c, hc, _⟩, _⟩ := Relation.TransGen.head'_iff.1 cycle
    simp [graph] at hc

theorem tracked_runSchedule (fresh : m₀.Fresh) (enabled : m₀.detector.isEnabled = true)
    (schedule : List T) : (m₀.runSchedule schedule).roster.Tracked := by
  refine runSchedule_induction (P := fun m => m.roster.Tracked) (fresh.tracked enabled) ?_ schedule
  intro before t thread m' tracked found turn
  exact tracked.move (owned_runSchedule fresh before) (roster_turn found turn)

end Machine
end ClusterDriver
