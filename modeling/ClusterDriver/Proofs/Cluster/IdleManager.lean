import ClusterDriver.Cluster.Manager
/-!
# Idle managers

A manager that has nothing to run and accepts jobs runs a job as soon as it is asked to. Who waits
for it gets what the job computed from the table as it was, and the manager is idle again.
-/
namespace ClusterDriver

namespace Task
variable {σ ρ : Type} {k k' : Task σ ρ}

/-- Open, with nothing to run and no ticket that was not handed out. -/
structure Idle (k : Task σ ρ) : Prop where
  accepting : k.accepting = true
  queue : k.queue = []
  current : k.current = none
  tickets : ∀ e ∈ k.ended, e.1 < k.accepted

theorem Idle.tick (idle : k.Idle) : k.tick = none := by
  simp [Task.tick, idle.current, idle.queue]

theorem settleWithin_of_stuck (stuck : k.tick = none) (fuel : Nat) : k.settleWithin fuel = k := by
  cases fuel with
  | zero => rfl
  | succ fuel => simp [settleWithin, stuck]

theorem Idle.settle (idle : k.Idle) : k.settle = k := settleWithin_of_stuck idle.tick _

theorem settleWithin_of_tick (acts : k.tick = some k') (fuel : Nat) :
    k.settleWithin (fuel + 1) = k'.settleWithin fuel := by
  simp [settleWithin, acts]

/-- An idle task after a job that makes one change. -/
def ran (k : Task σ ρ) (change : σ → σ) (answer : ρ) : Task σ ρ :=
  { k with
    state := change k.state
    accepted := k.accepted + 1
    ended := k.ended ++ [(k.accepted, .answered answer)] }

theorem Idle.ran (idle : k.Idle) (change : σ → σ) (answer : ρ) : (k.ran change answer).Idle where
  accepting := idle.accepting
  queue := idle.queue
  current := idle.current
  tickets e among := by
    rcases List.mem_append.1 among with before | new
    · exact Nat.lt_succ_of_lt (idle.tickets e before)
    · obtain rfl := List.mem_singleton.1 new
      exact Nat.lt_succ_self _

/-- The job is begun, makes its change and ends. -/
theorem settle_submit (idle : k.Idle) (change : σ → σ) (answer : ρ) :
    (k.submit (.work change fun _ => .done answer)).2.settle = k.ran change answer := by
  let job : Job σ ρ := .work change fun _ => .done answer
  let waiting : Task σ ρ := { k with accepted := k.accepted + 1, queue := [(k.accepted, job)] }
  let begun : Task σ ρ := { waiting with queue := [], current := some (k.accepted, job) }
  let changed : Task σ ρ :=
    { begun with state := change k.state, current := some (k.accepted, .done answer) }
  have submits : (k.submit job).2 = waiting := by
    simp [submit, idle.accepting, idle.queue, waiting]
  have begins : waiting.tick = some begun := by simp [Task.tick, waiting, begun, idle.current]
  have works : begun.tick = some changed := by simp [Task.tick, act, begun, changed, waiting, job]
  have ends : changed.tick = some (k.ran change answer) := by
    simp [Task.tick, act, finish, changed, begun, waiting, Task.ran, idle.current, idle.queue]
  have long : patience = 999997 + 1 + 1 + 1 := rfl
  rw [submits, Task.settle, long, settleWithin_of_tick begins, settleWithin_of_tick works,
    settleWithin_of_tick ends, settleWithin_of_stuck (idle.ran change answer).tick]

theorem Idle.end_ran (idle : k.Idle) (change : σ → σ) (answer : ρ) :
    (k.ran change answer).end? k.accepted = some (.answered answer) := by
  have earlier : k.ended.find? (fun e => e.1 = k.accepted) = none := by
    rw [List.find?_eq_none]
    intro e among same
    exact absurd (of_decide_eq_true same) (Nat.ne_of_lt (idle.tickets e among))
  simp [end?, Task.ran, List.find?_append, earlier]

end Task

/-- Who waits for a job of an idle task gets its answer. -/
theorem Coordination.execute_idle {T σ ρ : Type} [DecidableEq T] {o : Coordination T σ ρ}
    (idle : o.task.Idle) (t : T) (change : σ → σ) (answer : ρ) :
    ∃ o', o.callAndSettle t (.execute (.work change fun _ => .done answer)) =
        (some (.ok (.answer answer)), o') ∧
      o'.task = o.task.ran change answer := by
  let job : Job σ ρ := .work change fun _ => .done answer
  let waiting : Coordination T σ ρ :=
    { o with task := (o.task.submit job).2 }.setCaller t (.executing o.task.accepted)
  have calls : o.call t (.execute job) = waiting := by
    simp [Coordination.call, Task.submit, idle.accepting, waiting]
  let settled : Coordination T σ ρ := { waiting with task := o.task.ran change answer }
  have settles : waiting.settle = settled :=
    congrArg (fun task => { waiting with task }) (Task.settle_submit idle change answer)
  let answered := settled.setCaller t (.returned (.ok (.answer answer)))
  have resumes : settled.resume t = some answered := by
    have here : settled.callers.get? t = some (.executing o.task.accepted) :=
      Table.get?_insert_self _ _ _
    simp [resume, here, settled, idle.end_ran, answered]
  refine ⟨answered, ?_, rfl⟩
  have found : answered.callers.get? t = some (.returned (.ok (.answer answer))) :=
    Table.get?_insert_self _ _ _
  simp [callAndSettle, job, calls, settles, resumes, found]

/-- What is performed on an idle manager is done at once. -/
theorem Manager.perform_idle {β : Type} {m : Manager} (idle : m.coordination.task.Idle)
    (caller : String) (f : NodeTable → β × NodeTable) :
    ∃ m', m.perform caller f = (.ok (f m.table).1, m') ∧ m'.table = (f m.table).2 ∧
      m'.coordination.task.Idle ∧ m'.bus = m.bus := by
  obtain ⟨o, executes, task⟩ := Coordination.execute_idle idle caller
    (·.change fun t => (f t).2) ([] : List Json)
  have calls : m.call caller (.execute (jobOf fun t => (f t).2)) =
      (some (.ok (.answer [])), { m with coordination := o }) := by
    rw [call, jobOf, executes]
  have found : m.coordination.settle.task.state.table = m.table :=
    congrArg (·.state.table) idle.settle
  have table : Manager.table { m with coordination := o } = (f m.table).2 :=
    congrArg (·.state.table) task
  exact ⟨_, by simp [perform, calls, found], table, task ▸ idle.ran _ _, rfl⟩

end ClusterDriver
