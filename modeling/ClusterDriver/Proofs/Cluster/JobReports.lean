import ClusterDriver.Proofs.Cluster.JobCompletion
import Mathlib.Data.List.Infix
import Mathlib.Data.List.Nodup
/-!
# Reports of jobs

A thread outside that executes a job waits until the job has ended, and is told how. It hears that
the task is closed in two cases. Either the task was closed when the job was handed in, and nothing
came of the job; or the job was run and panicked, and then the task may be as open as before.
-/
namespace ClusterDriver

/-- What a thread that executes a job is told about its end. -/
def JobEnd.report {ρ : Type} : JobEnd ρ → Except AccessError (Reply ρ)
  | .answered answer => .ok (.answer answer)
  | .panicked => .error .closed

namespace Task
variable {σ ρ : Type} {k k' : Task σ ρ} {ticket : Nat} {e : JobEnd ρ}

theorem ended_turn {job : Option (Job σ ρ)} {first : Option (Nat × Job σ ρ)} {acting : Option Nat}
    (turn : k.Turn job first acting k') : k.ended <+: k'.ended := by
  cases turn with
  | finish => exact List.prefix_append _ _
  | call job => exact (k.ended_submit job).symm ▸ List.prefix_rfl
  | @submit _ job => exact (k.ended_submit job).symm ▸ List.prefix_rfl
  | pass | shutdown | begin | work | execute | close | isRunning => exact List.prefix_rfl

theorem end_of_prefix (longer : k.ended <+: k'.ended) (ends : k.end? ticket = some e) :
    k'.end? ticket = some e := by
  obtain ⟨later, heq⟩ := longer
  obtain ⟨entry, found, rfl⟩ := Option.map_eq_some_iff.1 ends
  rw [end?, ← heq, List.find?_append, found]
  rfl

theorem mem_ended_of_end (ends : k.end? ticket = some e) : (ticket, e) ∈ k.ended := by
  obtain ⟨⟨other, _⟩, found, rfl⟩ := Option.map_eq_some_iff.1 ends
  obtain rfl : other = ticket := by simpa using List.find?_some found
  exact List.mem_of_find?_eq_some found

/-- A job that has ended is the one that was accepted under its ticket. -/
theorem Serial.mem_begun {accepted begun : List (Nat × Job σ ρ)} {activity : List Nat}
    (serial : k.Serial accepted begun activity) {job : Job σ ρ}
    (member : (ticket, job) ∈ accepted) (ended : (ticket, e) ∈ k.ended) :
    (ticket, job) ∈ begun := by
  have began : ticket ∈ begun.map Prod.fst := by
    rw [serial.ended]
    exact List.mem_append_left _ (List.mem_map_of_mem ended)
  obtain ⟨⟨_, other⟩, among, rfl⟩ := List.mem_map.1 began
  have once : (accepted.map Prod.fst).Nodup := serial.tickets ▸ List.nodup_range
  have listed := serial.queued ▸ List.mem_append_left k.queue among
  obtain ⟨_, rfl⟩ := Prod.mk.inj (List.inj_on_of_nodup_map once member listed rfl)
  exact among

end Task

namespace Coordination
variable {T σ ρ : Type} [DecidableEq T] {o : Coordination T σ ρ} {t : T} {ticket : Nat}

theorem ended_act (o : Coordination T σ ρ) (a : Action T σ ρ) :
    o.task.ended <+: (o.act a).task.ended :=
  Task.ended_turn (turn_of_act o a)

/-- Nothing but a call of its own takes from a thread what it was told. -/
theorem returned_act {result : Except AccessError (Reply ρ)}
    (told : o.callers.get? t = some (.returned result)) {a : Action T σ ρ}
    (silent : ∀ c, a ≠ .call t c) : (o.act a).callers.get? t = some (.returned result) := by
  cases a with
  | tick => exact told
  | call u c =>
    have hu : u ≠ t := fun h => silent c (h ▸ rfl)
    exact (callers_call o hu c).trans told
  | resume u =>
    cases resumed : o.resume u with
    | none => simpa [act, resumed] using told
    | some o' =>
      have hu : u ≠ t := by
        rintro rfl
        simp [resume, told] at resumed
      simpa [act, resumed] using (callers_resume resumed hu).trans told

theorem returned_run {result : Except AccessError (Reply ρ)}
    (told : o.callers.get? t = some (.returned result)) (later : List (Action T σ ρ))
    (silent : ∀ c, Action.call t c ∉ later) :
    (o.run later).callers.get? t = some (.returned result) := by
  induction later using List.reverseRecOn with
  | nil => exact told
  | append_singleton actions a ih =>
    rw [run_concat]
    refine returned_act (ih fun c h => silent c (List.mem_append_left _ h)) ?_
    rintro c rfl
    exact silent c (by simp)

/-- A thread that executes a job goes on waiting, or is told how the job ended. -/
theorem executing_act (waits : o.callers.get? t = some (.executing ticket)) {a : Action T σ ρ}
    (silent : ∀ c, a ≠ .call t c) :
    (o.act a).callers.get? t = some (.executing ticket) ∨
      ∃ e, o.task.end? ticket = some e ∧
        (o.act a).callers.get? t = some (.returned e.report) := by
  cases a with
  | tick => exact Or.inl waits
  | call u c =>
    have hu : u ≠ t := fun h => silent c (h ▸ rfl)
    exact Or.inl ((callers_call o hu c).trans waits)
  | resume u =>
    by_cases hu : u = t
    · subst hu
      cases ends : o.task.end? ticket with
      | none => exact Or.inl (by simp [act, resume, waits, ends])
      | some e =>
        refine Or.inr ⟨e, rfl, ?_⟩
        cases e <;> simp [act, resume, waits, ends, setCaller, JobEnd.report]
    · refine Or.inl ?_
      cases resumed : o.resume u with
      | none => simpa [act, resumed] using waits
      | some o' => simpa [act, resumed] using (callers_resume resumed hu).trans waits

theorem executing_run (waits : o.callers.get? t = some (.executing ticket))
    (later : List (Action T σ ρ)) (silent : ∀ c, Action.call t c ∉ later) :
    (o.run later).callers.get? t = some (.executing ticket) ∨
      ∃ e, (o.run later).task.end? ticket = some e ∧
        (o.run later).callers.get? t = some (.returned e.report) := by
  induction later using List.reverseRecOn with
  | nil => exact Or.inl waits
  | append_singleton actions a ih =>
    have mute : ∀ c, a ≠ .call t c := by
      rintro c rfl
      exact silent c (by simp)
    have longer := ended_act (o.run actions) a
    rw [run_concat]
    rcases ih fun c h => silent c (List.mem_append_left _ h) with still | ⟨e, ends, told⟩
    · refine (executing_act still mute).imp_right ?_
      rintro ⟨e, ends, told⟩
      exact ⟨e, Task.end_of_prefix longer ends, told⟩
    · exact Or.inr ⟨e, Task.end_of_prefix longer ends, returned_act told mute⟩

/-- An open task takes the job that a thread executes, and the thread waits for its end. -/
theorem call_execute_of_open (accepting : o.task.accepting = true) (t : T) (job : Job σ ρ) :
    (o.call t (.execute job)).callers.get? t = some (.executing o.task.accepted) ∧
      o.accepts? (.call t (.execute job)) = some (o.task.accepted, job) := by
  simp [call, Task.submit, accepting, setCaller, accepts?, job?, Call.job?, Except.toOption]

/-- What a thread outside hears of a job that it executes. Of a closed task it hears that it is
closed, and nothing comes of the job. An open task runs the job, and once the job has ended the
thread is told how: with the answer, or as if the task were closed when the job has panicked. So it
hears that the task is closed exactly if it was when the job was handed in, or the job has run and
panicked. -/
theorem execute_reports (s₀ : σ) (actions : List (Action T σ ρ)) (t : T) (job : Job σ ρ)
    (later : List (Action T σ ρ)) (silent : ∀ c, Action.call t c ∉ later) :
    let o₀ : Coordination T σ ρ := opened T s₀
    let o := o₀.run actions
    let whole := actions ++ .call t (.execute job) :: later
    let o' := o₀.run whole
    (o.task.accepting = false →
      (o.call t (.execute job)).task = o.task ∧ o₀.accepted whole = o₀.accepted actions ∧
      o'.callers.get? t = some (.returned (.error .closed))) ∧
    (o.task.accepting = true → ∀ result, o'.callers.get? t = some (.returned result) →
      ∃ e, (o.task.accepted, job) ∈ o₀.begun whole ∧ (o.task.accepted, e) ∈ o'.task.ended ∧
        result = e.report) ∧
    (o'.callers.get? t = some (.returned (.error .closed)) ↔
      o.task.accepting = false ∨
      (o.task.accepted, .panicked) ∈ o'.task.ended ∧
        ∃ result, o'.callers.get? t = some (.returned result)) := by
  intro o₀ o whole o'
  have after : o' = (o.call t (.execute job)).run later := run_append o₀ actions _
  have refused : o.task.accepting = false →
      (o.call t (.execute job)).task = o.task ∧ o₀.accepted whole = o₀.accepted actions ∧
      o'.callers.get? t = some (.returned (.error .closed)) := by
    intro closed
    have call := (refuses_of_closed closed).call t (.execute job) job rfl
    obtain ⟨_, _, nothing⟩ := closed_run closed (.call t (.execute job) :: later)
    refine ⟨by rw [call]; rfl, ?_, ?_⟩
    · rw [accepted, observed_append]
      exact (congrArg (o₀.accepted actions ++ ·) nothing).trans (List.append_nil _)
    · rw [after, call]
      exact returned_run (Table.get?_insert_self _ _ _) later silent
  have reported : o.task.accepting = true → ∀ result,
      o'.callers.get? t = some (.returned result) →
      ∃ e, (o.task.accepted, job) ∈ o₀.begun whole ∧ (o.task.accepted, e) ∈ o'.task.ended ∧
        result = e.report := by
    intro accepting result told
    obtain ⟨waits, accepts⟩ := call_execute_of_open accepting t job
    have ran := executing_run waits later silent
    rw [← after] at ran
    rcases ran with still | ⟨e, ends, heard⟩
    · cases still.symm.trans told
    · have ended := Task.mem_ended_of_end ends
      have member : (o.task.accepted, job) ∈ o₀.accepted whole := by
        rw [accepted, observed_append, observed, accepts]
        simp
      refine ⟨e, (serial_run s₀ whole).mem_begun member ended, ended, ?_⟩
      cases heard.symm.trans told
      rfl
  refine ⟨refused, reported, fun told => ?_, ?_⟩
  · cases accepting : o.task.accepting with
    | false => exact Or.inl rfl
    | true =>
      obtain ⟨e, _, ended, report⟩ := reported accepting _ told
      cases e with
      | answered answer => cases report
      | panicked => exact Or.inr ⟨ended, _, told⟩
  · rintro (closed | ⟨panicked, result, told⟩)
    · exact (refused closed).2.2
    · cases accepting : o.task.accepting with
      | false => exact (refused accepting).2.2
      | true =>
        obtain ⟨e, _, ended, rfl⟩ := reported accepting result told
        have once : (o'.task.ended.map Prod.fst).Nodup :=
          (serial_run s₀ whole).ended_eq ▸ List.nodup_range
        obtain ⟨_, rfl⟩ := Prod.mk.inj (List.inj_on_of_nodup_map once ended panicked rfl)
        exact told

/-- The job of the second thread panics after it has changed the state. -/
def failing : Job (List Nat) Nat := .work (· ++ [1]) fun _ => .panic

/-- The second thread is told while the first one queues a job and shuts the task down. -/
def telling : List (Action Nat (List Nat) Nat) :=
  [.tick, .tick, .tick, .resume 1, .call 0 (.submit (append 2)), .call 0 .shutdown]

theorem failing_reported :
    let o : Coordination Nat (List Nat) Nat :=
      (opened Nat []).run ([] ++ .call 1 (.execute failing) :: telling)
    (∀ c, Action.call 1 c ∉ telling) ∧
    (0, .panicked) ∈ o.task.ended ∧
    o.callers.get? 1 = some (.returned (.error .closed)) := by
  intro o
  have silent : ∀ c, Action.call 1 c ∉ telling := by
    intro c h
    simp [telling] at h
  obtain ⟨_, _, closed⟩ := execute_reports (T := Nat) [] [] 1 failing telling silent
  have panicked : (0, .panicked) ∈ o.task.ended := List.mem_singleton.2 rfl
  exact ⟨silent, panicked, closed.2 (Or.inr ⟨panicked, _, rfl⟩)⟩

/-- The thread hears that the task is closed although it has been running all the time, and the job
has had an effect. -/
theorem failing_taken_for_closed :
    let actions : List (Action Nat (List Nat) Nat) :=
      .call 1 (.execute failing) :: [.tick, .tick, .tick, .resume 1]
    let o : Coordination Nat (List Nat) Nat := (opened Nat []).run actions
    o.callers.get? 1 = some (.returned (.error .closed)) ∧
    (∀ before, before <+: actions →
      ((opened Nat []).run before : Coordination Nat (List Nat) Nat).task.accepting = true) ∧
    o.task.state = [1] := by
  intro actions o
  have open_throughout : ∀ before ∈ actions.inits,
      ((opened Nat []).run before : Coordination Nat (List Nat) Nat).task.accepting = true := by
    intro before h
    simp [actions] at h
    rcases h with rfl | rfl | rfl | rfl | rfl | rfl <;> rfl
  exact ⟨rfl, fun before short => open_throughout before ((List.mem_inits _ _).2 short), rfl⟩

end Coordination
end ClusterDriver
