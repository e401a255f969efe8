import ClusterDriver.Proofs.Registry.CellHistory
import ClusterDriver.Proofs.Registry.Refusals
/-!
# Service

A request for a complete cell is answered within a few actions of the thread that makes it, however
many actions other threads take between them.
-/
namespace ClusterDriver.Machine
variable {T C σ α : Type} [DecidableEq T] [DecidableEq C] {m m' m₀ : Machine T C σ α} {t : T}
  {c : C}

theorem label_runSchedule (m₀ : Machine T C σ α) (schedule : List T) :
    (m₀.runSchedule schedule).label = m₀.label := by
  refine runSchedule_induction (P := fun m => m.label = m₀.label) rfl ?_ schedule
  intro before t thread m' same _ turn
  exact (label_turn turn).trans same

/-- What counts down with the actions of `t`, and not with those of others, is down to zero after as
many of them. -/
theorem countdown {P : Nat → List T → Prop}
    (others : ∀ n schedule u, u ≠ t → P n schedule → P n (schedule ++ [u]))
    (own : ∀ n schedule, P (n + 1) schedule → P n (schedule ++ [t]))
    (later schedule : List T) (start : P (later.count t) schedule) : P 0 (schedule ++ later) := by
  induction later generalizing schedule with
  | nil => simpa using start
  | cons u rest ih =>
    rw [← List.singleton_append, ← List.append_assoc]
    by_cases hu : u = t
    · subst hu
      rw [List.count_cons_self] at start
      exact ih _ (own _ schedule start)
    · rw [List.count_cons_of_ne hu] at start
      exact ih _ (others _ schedule u hu start)

/-- No action of another thread moves `t`. -/
theorem threads_concat_of_ne {u : T} (hu : u ≠ t) (schedule : List T) :
    (m₀.runSchedule (schedule ++ [u])).threads.get? t =
      (m₀.runSchedule schedule).threads.get? t := by
  rw [runSchedule_concat]
  cases hstep : (m₀.runSchedule schedule).step u with
  | none => rfl
  | some m' =>
    obtain ⟨thread, _, turn⟩ := turn_of_step hstep
    exact threads_turn turn hu.symm

/-- A request for a cell that is complete is not refused. -/
theorem request_of_complete (fresh : m₀.Fresh) (schedule : List T) {r : Request T C σ α}
    {outer : List (Request T C σ α)}
    (found : (m₀.runSchedule schedule).threads.get? t = some (.request .register r outer))
    {result : Except AccessError α}
    (complete : ((m₀.runSchedule schedule).content r.cell).outcome? = some result) :
    ∃ detector, (m₀.runSchedule schedule).detector.request t r.cell = .ok detector := by
  cases request : (m₀.runSchedule schedule).detector.request t r.cell with
  | ok detector => exact ⟨detector, rfl⟩
  | error chain =>
    have enabled := (isEnabled_runSchedule m₀ schedule).symm.trans (enabled_of_refused request)
    obtain ⟨_, building, _⟩ := leads_of_refused (owned_runSchedule fresh schedule)
      (tracked_runSchedule fresh enabled schedule) found request
    simp [content, building, Cell.content, Content.outcome?] at complete

/-- What is left of a request for `c`, by the number of actions that the thread needs for it when
the cell is complete. -/
inductive Served (c : C) (outer : List (Request T C σ α))
    (next : Except AccessError α → Program T C σ α) (result : Except AccessError α) :
    Nat → Thread T C σ α → Prop
  | ask : Served c outer next result 2 (.run outer (.get c next))
  | check : Served c outer next result 1 (.request .check ⟨c, next⟩ outer)
  | register : Served c outer next result 3 (.request .register ⟨c, next⟩ outer)
  | inspect : Served c outer next result 2 (.request .inspect ⟨c, next⟩ outer)
  | served (other) : Served c outer next result 1 (.request (.served other) ⟨c, next⟩ outer)
  | answered : Served c outer next result 0 (.run outer (next result))

theorem step_served (fresh : m₀.Fresh) (schedule : List T) {outer : List (Request T C σ α)}
    {next : Except AccessError α → Program T C σ α} {result : Except AccessError α} {n : Nat}
    (complete : ((m₀.runSchedule schedule).content c).outcome? = some result)
    {thread : Thread T C σ α} (found : (m₀.runSchedule schedule).threads.get? t = some thread)
    (served : Served c outer next result (n + 1) thread) :
    ∃ new, (m₀.runSchedule (schedule ++ [t])).threads.get? t = some new ∧
      Served c outer next result n new := by
  have after := runSchedule_concat m₀ schedule t
  generalize hm : m₀.runSchedule schedule = m at *
  cases served with
  | ask =>
    have step : m.step t = some (m.setThread t (.request .check ⟨c, next⟩ outer)) := by
      simp [step, found, runStep]
    rw [after, step]
    exact ⟨_, Table.get?_insert_self _ _ _, .check⟩
  | check =>
    have step : m.step t = some (m.setThread t (.run outer (next result))) := by
      simp [step, found, requestStep, complete]
    rw [after, step]
    exact ⟨_, Table.get?_insert_self _ _ _, .answered⟩
  | register =>
    obtain ⟨detector, allowed⟩ := request_of_complete fresh schedule (hm ▸ found) (hm ▸ complete)
    rw [hm] at allowed
    have step : m.step t =
        some ({ m with detector }.setThread t (.request .inspect ⟨c, next⟩ outer)) := by
      simp [step, found, requestStep, allowed]
    rw [after, step]
    exact ⟨_, Table.get?_insert_self _ _ _, .inspect⟩
  | inspect =>
    have step : m.step t = some (m.setThread t (.request (.served result) ⟨c, next⟩ outer)) := by
      have hcell := outcome_eq_some.1 complete
      cases result <;> simp [step, found, requestStep, hcell, Cell.ofResult]
    rw [after, step]
    exact ⟨_, Table.get?_insert_self _ _ _, .served result⟩
  | served other =>
    have agrees := agreement_runSchedule fresh schedule t _ (hm ▸ found)
    rw [hm] at agrees
    obtain rfl : result = other := Option.some.inj (complete.symm.trans agrees)
    have step : m.step t = some ({ m with detector := m.detector.stopWaiting t }.setThread t
        (.run outer (next result))) := by
      simp [step, found, requestStep]
    rw [after, step]
    exact ⟨_, Table.get?_insert_self _ _ _, .answered⟩

/-- A request for a complete cell is answered with its outcome. -/
theorem answered_of_complete (fresh : m₀.Fresh) (schedule : List T)
    {outer : List (Request T C σ α)} {next : Except AccessError α → Program T C σ α}
    {result : Except AccessError α}
    (complete : ((m₀.runSchedule schedule).content c).outcome? = some result)
    {thread : Thread T C σ α} (found : (m₀.runSchedule schedule).threads.get? t = some thread)
    (later : List T) (served : Served c outer next result (later.count t) thread) :
    (m₀.runSchedule (schedule ++ later)).threads.get? t = some (.run outer (next result)) := by
  have down := countdown (t := t)
    (P := fun n schedule => ((m₀.runSchedule schedule).content c).outcome? = some result ∧
      ∃ thread, (m₀.runSchedule schedule).threads.get? t = some thread ∧
        Served c outer next result n thread) ?_ ?_ later schedule ⟨complete, thread, found, served⟩
  · obtain ⟨_, _, found, done⟩ := down
    cases done
    exact found
  · rintro n schedule u hu ⟨complete, thread, found, served⟩
    exact ⟨outcome_runSchedule fresh schedule [u] complete, thread,
      (threads_concat_of_ne hu schedule).trans found, served⟩
  · rintro n schedule ⟨complete, thread, found, served⟩
    exact ⟨outcome_runSchedule fresh schedule [t] complete,
      step_served fresh schedule complete found served⟩

end ClusterDriver.Machine
