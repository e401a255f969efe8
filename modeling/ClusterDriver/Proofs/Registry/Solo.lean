import ClusterDriver.Proofs.Registry.Runs
/-!
# One thread by itself

Where one thread acts alone there is one way to go on, and it is counted in turns. A request for a
complete cell is answered from it. A request for an empty one runs its builder, on top of the
requests under way, and is answered with what that returns; the detector refuses it only for a cell
that the thread is building already.
-/
namespace ClusterDriver

theorem Table.put_put {κ ν : Type} [DecidableEq κ] (k : κ) (v w : ν) (es : List (κ × ν)) :
    Table.put k w (Table.put k v es) = Table.put k w es := by
  induction es with
  | nil => simp [Table.put]
  | cons e rest ih =>
    by_cases h : e.1 = k
    · simp [Table.put, h]
    · simp [Table.put, h, ih]

theorem Table.insert_insert {κ ν : Type} [DecidableEq κ] (t : Table κ ν) (k : κ) (v w : ν) :
    (t.insert k v).insert k w = t.insert k w := by
  simp only [Table.insert, Table.put_put]

namespace Detector
variable {T C : Type} [DecidableEq T] [DecidableEq C] {d : Detector T C} {t : T} {c : C}
  {held : List C}

/-- As far as it keeps track, the thread is building these cells and nobody builds another. -/
structure Holds (d : Detector T C) (t : T) (held : List C) : Prop where
  stack : d.isEnabled = true → d.graph.stack t = held
  unbuilt : d.isEnabled = true → ∀ c, c ∉ held → d.graph.building.get? c = none

theorem holds_nil (isEnabled : Bool) : (⟨isEnabled, {}⟩ : Detector T C).Holds t [] where
  stack _ := rfl
  unbuilt _ _ _ := rfl

/-- A cell that the thread is not building may be waited for, and then built. -/
theorem Holds.enter (holds : d.Holds t held) (other : c ∉ held) :
    ∃ d', d.request t c = .ok d' ∧ ((d'.stopWaiting t).enter t c).Holds t (held ++ [c]) := by
  by_cases enabled : d.isEnabled = true
  · have stack := holds.stack enabled
    have unbuilt := holds.unbuilt enabled
    have closes : d.graph.closing? t c = none := by
      have walks : d.graph.walk t [c] [] c = none := by
        rw [WaitGraph.walk]
        split
        · rfl
        · next built => cases (unbuilt c other).symm.trans built
      rw [WaitGraph.closing?, stack, if_neg other, walks]
    refine ⟨{ d with graph := d.graph.wait t c }, by simp [request, enabled, closes], ?_, ?_⟩
    · intro _
      simp [Detector.stopWaiting, Detector.enter, enabled, WaitGraph.stack_enter, stack]
    · intro _ c' apart
      obtain ⟨apart, differ⟩ : c' ∉ held ∧ c' ≠ c := by simpa using apart
      simp [Detector.stopWaiting, Detector.enter, enabled, WaitGraph.enter,
        Table.get?_insert_of_ne _ differ.symm, unbuilt c' apart]
  · refine ⟨d, by simp [request, enabled], fun h => ?_, fun h => ?_⟩ <;>
      simp [Detector.stopWaiting, Detector.enter, enabled] at h

theorem Holds.leave (holds : d.Holds t (held ++ [c])) :
    (d.leave t c).Holds t held := by
  by_cases enabled : d.isEnabled = true
  · refine ⟨fun _ => ?_, fun _ c' apart => ?_⟩
    · simp [Detector.leave, enabled, WaitGraph.stack_leave, holds.stack enabled,
        WaitGraph.removeLast_append_self]
    · have building : (d.leave t c).graph.building = d.graph.building.erase c := by
        simp [Detector.leave, enabled, WaitGraph.leave]
      rw [building, Table.get?_erase]
      split
      · rfl
      · next differ =>
        exact holds.unbuilt enabled c' (by simp [apart, Ne.symm differ])
  · refine ⟨fun h => ?_, fun h => ?_⟩ <;> simp [Detector.leave, enabled] at h

end Detector

namespace Machine
variable {T C σ α : Type} [DecidableEq T] [DecidableEq C] {m m' m'' : Machine T C σ α} {t : T}
  {c : C} {k k' : Nat} {requests : List (Request T C σ α)} {program : Program T C σ α}

/-- In at most `k` turns of the thread. -/
def Comes (t : T) (k : Nat) (m m' : Machine T C σ α) : Prop :=
  ∃ n ≤ k, m.runSchedule (List.replicate n t) = m'

theorem Comes.refl (m : Machine T C σ α) : Comes t 0 m m := ⟨0, Nat.le_refl _, rfl⟩

theorem Comes.mono (comes : Comes t k m m') (le : k ≤ k') : Comes t k' m m' := by
  obtain ⟨n, few, run⟩ := comes
  exact ⟨n, Nat.le_trans few le, run⟩

theorem Comes.trans (first : Comes t k m m') (second : Comes t k' m' m'') :
    Comes t (k + k') m m'' := by
  obtain ⟨n, few, rfl⟩ := first
  obtain ⟨n', few', rfl⟩ := second
  refine ⟨n + n', Nat.add_le_add few few', ?_⟩
  rw [List.replicate_add, runSchedule_append]

theorem Comes.of_step (acts : m.step t = some m') : Comes t 1 m m' :=
  ⟨1, Nat.le_refl _, by simp [runSchedule, acts]⟩

omit [DecidableEq C] in
/-- What a thread is about to do replaces what it was about to do. -/
@[simp] theorem setThread_setThread (m : Machine T C σ α) (t : T) (old new : Thread T C σ α) :
    (m.setThread t old).setThread t new = m.setThread t new := by
  simp only [setThread, Table.insert_insert]

theorem step_run (m : Machine T C σ α) (t : T) (requests : List (Request T C σ α))
    (program : Program T C σ α) :
    (m.setThread t (.run requests program)).step t =
      (m.setThread t (.run requests program)).runStep t requests program := by
  simp [step, setThread]

theorem step_request (m : Machine T C σ α) (t : T) (stage : Stage T C σ α) (r : Request T C σ α)
    (outer : List (Request T C σ α)) :
    (m.setThread t (.request stage r outer)).step t =
      (m.setThread t (.request stage r outer)).requestStep t r outer stage := by
  simp [step, setThread]

theorem comes_of_run (acts : (m.setThread t (.run requests program)).runStep t requests program =
    some m') : Comes t 1 (m.setThread t (.run requests program)) m' :=
  .of_step ((step_run _ _ _ _).trans acts)

theorem comes_of_request {stage : Stage T C σ α} {r : Request T C σ α}
    (acts : (m.setThread t (.request stage r requests)).requestStep t r requests stage = some m') :
    Comes t 1 (m.setThread t (.request stage r requests)) m' :=
  .of_step ((step_request _ _ _ _ _).trans acts)

theorem comes_update (requests : List (Request T C σ α)) (change : T → σ → σ)
    (next : T → σ → Program T C σ α) :
    Comes t 1 (m.setThread t (.run requests (.update change next)))
      ({ m with shared := change t m.shared }.setThread t
        (.run requests (next t m.shared))) :=
  comes_of_run (by simp [runStep, setThread, Table.insert_insert])

theorem comes_read (requests : List (Request T C σ α)) (next : T → σ → Program T C σ α) :
    Comes t 1 (m.setThread t (.run requests (.read next)))
      (m.setThread t (.run requests (next t m.shared))) :=
  comes_update requests (fun _ s => s) next

theorem comes_ask (next : Except AccessError α → Program T C σ α) :
    Comes t 1 (m.setThread t (.run requests (.get c next)))
      (m.setThread t (.request .check ⟨c, next⟩ requests)) :=
  comes_of_run (by simp [runStep])

/-- A request for a complete cell. -/
theorem comes_get_complete {result : Except AccessError α}
    (requests : List (Request T C σ α)) (next : Except AccessError α → Program T C σ α)
    (complete : (m.content c).outcome? = some result) :
    Comes t 2 (m.setThread t (.run requests (.get c next)))
      (m.setThread t (.run requests (next result))) := by
  refine (comes_ask next).trans (comes_of_request ?_)
  have complete' : ((m.setThread t (.request .check ⟨c, next⟩ requests)).content c).outcome? =
      some result := complete
  simp [requestStep, complete']

/-- The thread has claimed the cell and is about to build it. -/
def claimed (m : Machine T C σ α) (t : T) (c : C) (detector : Detector T C) : Machine T C σ α :=
  { m.setCell c .building with detector := (detector.stopWaiting t).enter t c }

/-- The cell has the value, and the thread is done with it. -/
def delivered (m : Machine T C σ α) (t : T) (c : C) (value : α) : Machine T C σ α :=
  { m.setCell c (.built value) with detector := m.detector.leave t c }

/-- A request for an empty cell, up to where its builder runs. -/
theorem comes_get_empty {builder : Program T C σ α} {detector : Detector T C}
    (requests : List (Request T C σ α)) (next : Except AccessError α → Program T C σ α)
    (free : m.cells c = .empty builder)
    (allowed : m.detector.request t c = .ok detector) :
    Comes t 6 (m.setThread t (.run requests (.get c next)))
      ((m.claimed t c detector).setThread t (.run (⟨c, next⟩ :: requests) builder)) := by
  have check : Comes t 1 (m.setThread t (.request .check ⟨c, next⟩ requests))
      (m.setThread t (.request .register ⟨c, next⟩ requests)) :=
    comes_of_request (by
      simp [requestStep, setThread, content, free, Cell.content, Content.outcome?,
        Table.insert_insert])
  have register : Comes t 1 (m.setThread t (.request .register ⟨c, next⟩ requests))
      ({ m with detector }.setThread t (.request .inspect ⟨c, next⟩ requests)) :=
    comes_of_request (by simp [requestStep, setThread, allowed, Table.insert_insert])
  have claim : Comes t 1 ({ m with detector }.setThread t (.request .inspect ⟨c, next⟩ requests))
      ({ m.setCell c .building with detector }.setThread t
        (.request (.claimed builder) ⟨c, next⟩ requests)) :=
    comes_of_request (by simp [requestStep, setThread, setCell, free, Table.insert_insert])
  have clear : Comes t 1
      ({ m.setCell c .building with detector }.setThread t
        (.request (.claimed builder) ⟨c, next⟩ requests))
      ({ m.setCell c .building with detector := detector.stopWaiting t }.setThread t
        (.request (.cleared builder) ⟨c, next⟩ requests)) :=
    comes_of_request (by simp [requestStep, setThread, Table.insert_insert])
  have enter : Comes t 1
      ({ m.setCell c .building with detector := detector.stopWaiting t }.setThread t
        (.request (.cleared builder) ⟨c, next⟩ requests))
      ((m.claimed t c detector).setThread t (.run (⟨c, next⟩ :: requests) builder)) :=
    comes_of_request (by simp [requestStep, claimed, setThread, Table.insert_insert])
  exact (((((comes_ask next).trans check).trans register).trans claim).trans clear).trans enter

/-- A builder that returns, up to where the request for its cell is answered. -/
theorem comes_return (requests : List (Request T C σ α)) (c : C)
    (next : Except AccessError α → Program T C σ α) (value : α) :
    Comes t 3 (m.setThread t (.run (⟨c, next⟩ :: requests) (.ok value)))
      ((m.delivered t c value).setThread t (.run requests (next (.ok value)))) := by
  have ends : Comes t 1 (m.setThread t (.run (⟨c, next⟩ :: requests) (.ok value)))
      (m.setThread t (.request (.ended (.returned (.ok value))) ⟨c, next⟩ requests)) :=
    comes_of_run (by simp [runStep, ended, attributed])
  have publish : Comes t 1
      (m.setThread t (.request (.ended (.returned (.ok value))) ⟨c, next⟩ requests))
      ((m.setCell c (.built value)).setThread t
        (.request (.published (.returned (.ok value))) ⟨c, next⟩ requests)) :=
    comes_of_request (by
      simp [requestStep, setThread, setCell, settled, Cell.ofResult, Table.insert_insert])
  have leave : Comes t 1
      ((m.setCell c (.built value)).setThread t
        (.request (.published (.returned (.ok value))) ⟨c, next⟩ requests))
      ((m.delivered t c value).setThread t (.run requests (next (.ok value)))) :=
    comes_of_request (by simp [requestStep, delivered, setThread, setCell, Table.insert_insert])
  exact (ends.trans publish).trans leave

theorem comes_done (value : α) :
    Comes t 1 (m.setThread t (.run [] (.ok value)))
      (m.setThread t (.done (.returned (.ok value)))) :=
  comes_of_run (by simp [runStep, ended])

theorem runSchedule_stuck (stuck : m.step t = none) (n : Nat) :
    m.runSchedule (List.replicate n t) = m := by
  induction n with
  | zero => rfl
  | succ n ih =>
    have first : m.runSchedule (List.replicate (n + 1) t) =
        ((m.step t).getD m).runSchedule (List.replicate n t) := rfl
    rw [first, stuck]
    exact ih

/-- Only the thread that acts is put in another place. -/
theorem insert_of_turn {thread : Thread T C σ α} (turn : Turn m t thread m') :
    ∃ new, m'.threads = m.threads.insert t new := by
  cases turn with
  | replace => exact ⟨_, congrArg (Table.insert · t _) (replace_threads ..)⟩
  | conclude | ask | look | stack | update | await | reuse | approach | refuse | wait | serve
  | claim | release | clear | enter | publish | leave | unwind => exact ⟨_, rfl⟩

omit [DecidableEq C] in
theorem keys_setThread (only : m.threads.keys = [t]) (thread : Thread T C σ α) :
    (m.setThread t thread).threads.keys = [t] := by
  rw [Table.keys] at only ⊢
  rw [setThread, Table.insert, Table.keys_put, only, if_pos List.mem_cons_self]

theorem keys_step (only : m.threads.keys = [t]) (acts : m.step t = some m') :
    m'.threads.keys = [t] := by
  obtain ⟨thread, _, turn⟩ := turn_of_step acts
  obtain ⟨new, threads⟩ := insert_of_turn turn
  rw [threads]
  exact keys_setThread only new

theorem Comes.keys (comes : Comes t k m m') (only : m.threads.keys = [t]) :
    m'.threads.keys = [t] := by
  obtain ⟨n, few, rfl⟩ := comes
  clear few
  induction n generalizing m with
  | zero => exact only
  | succ n ih =>
    have first : m.runSchedule (List.replicate (n + 1) t) =
        ((m.step t).getD m).runSchedule (List.replicate n t) := rfl
    rw [first]
    cases acts : m.step t with
    | none => exact ih only
    | some m' => exact ih (keys_step only acts)

theorem settleWithin_eq (only : m.threads.keys = [t]) (fuel : Nat) :
    m.settleWithin fuel = m.runSchedule (List.replicate fuel t) := by
  induction fuel generalizing m with
  | zero => rfl
  | succ fuel ih =>
    have first : m.runSchedule (List.replicate (fuel + 1) t) =
        ((m.step t).getD m).runSchedule (List.replicate fuel t) := rfl
    rw [settleWithin, only, first]
    cases acts : m.step t with
    | none =>
      simp only [firstStep?, acts, Option.getD_none]
      exact (runSchedule_stuck acts fuel).symm
    | some m' =>
      simp only [firstStep?, acts, Option.getD_some]
      exact ih (keys_step only acts)

/-- A thread that ends soon enough is followed to its end. -/
theorem settle_of_comes (only : m.threads.keys = [t]) (comes : Comes t k m m')
    (soon : k ≤ patience) (stuck : m'.step t = none) : m.settle = m' := by
  obtain ⟨n, few, rfl⟩ := comes
  have split : patience = n + (patience - n) := (Nat.add_sub_cancel' (Nat.le_trans few soon)).symm
  rw [settle, settleWithin_eq only, split, List.replicate_add, runSchedule_append]
  exact runSchedule_stuck stuck _

end Machine
end ClusterDriver
