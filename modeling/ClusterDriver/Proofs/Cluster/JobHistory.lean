import ClusterDriver.Cluster.Task
import Mathlib.Data.List.Induction
import Mathlib.Logic.Relation
/-!
# Job histories

Threads call a coordination task and wait for it while its own thread takes the actions of the jobs.
A run is any sequence of such actions. What was submitted, what has begun and whose actions were
taken is read off the run, so it is no part of the task. Jobs begin in the order in which they were
accepted, one after the end of the other, and what they do to the state is what they would do in a
sequence.
-/
namespace ClusterDriver
open Relation

/-- The job that a call submits. -/
def Call.job? {σ ρ : Type} : Call σ ρ → Option (Job σ ρ)
  | .submit job | .await job | .execute job => some job
  | .shutdown => none

/-- How a job ends that has nothing left to do. -/
def Job.end? {σ ρ : Type} : Job σ ρ → Option (JobEnd ρ)
  | .done answer => some (.answered answer)
  | .panic => some .panicked
  | _ => none

namespace Task
variable {σ ρ : Type} (k : Task σ ρ) (job : Job σ ρ)

@[simp] theorem state_submit : (k.submit job).2.state = k.state := by
  unfold submit
  split <;> rfl

@[simp] theorem accepting_submit : (k.submit job).2.accepting = k.accepting := by
  unfold submit
  split <;> rfl

@[simp] theorem current_submit : (k.submit job).2.current = k.current := by
  unfold submit
  split <;> rfl

@[simp] theorem ended_submit : (k.submit job).2.ended = k.ended := by
  unfold submit
  split <;> rfl

/-- A job is told whether its submission was accepted, but no ticket. -/
theorem answer_submit :
    ((k.submit job).1.map fun _ => ()) = if k.accepting then .ok () else .error .closed := by
  unfold submit
  split <;> rfl

theorem submit_of_closed {k : Task σ ρ} (closed : k.accepting = false) (job : Job σ ρ) :
    k.submit job = (.error .closed, k) := by
  simp [submit, closed]

end Task

/-- What an action makes of the task, with the job that it submits, the job that it begins, and the
ticket of the job that acts. -/
inductive Task.Turn {σ ρ : Type} (k : Task σ ρ) :
    Option (Job σ ρ) → Option (Nat × Job σ ρ) → Option Nat → Task σ ρ → Prop
  | pass : Turn k none none none k
  | call (job) : Turn k (some job) none none (k.submit job).2
  | shutdown : Turn k none none none k.close
  | begin {first rest} (idle : k.current = none) (queued : k.queue = first :: rest) :
    Turn k none (some first) none { k with current := some first, queue := rest }
  | finish {ticket job e} (running : k.current = some (ticket, job)) (ends : job.end? = some e) :
    Turn k none none (some ticket) (k.finish ticket e)
  | work {ticket change next} (running : k.current = some (ticket, .work change next)) :
    Turn k none none (some ticket)
      { k with state := change k.state, current := some (ticket, next k.state) }
  | submit {ticket job next} (running : k.current = some (ticket, .submit job next)) :
    Turn k (some job) none (some ticket)
      { (k.submit job).2 with
        current := some (ticket, next ((k.submit job).1.map fun _ => ())) }
  | execute {ticket job next} (running : k.current = some (ticket, .execute job next)) :
    Turn k none none (some ticket)
      { k with current := some (ticket, next (.error waitsOnItself)) }
  | close {ticket next} (running : k.current = some (ticket, .close next)) :
    Turn k none none (some ticket) { k.close with current := some (ticket, next) }
  | isRunning {ticket next} (running : k.current = some (ticket, .isRunning next)) :
    Turn k none none (some ticket) { k with current := some (ticket, next k.accepting) }

namespace Coordination

/-- An action of a thread outside, or of the coordination thread. -/
inductive Action (T σ ρ : Type) where
  | call (t : T) (call : Call σ ρ)
  | resume (t : T)
  | tick

variable {T σ ρ : Type} [DecidableEq T] {o : Coordination T σ ρ}

/-- A thread that cannot go on lets its turn pass. -/
def act (o : Coordination T σ ρ) : Action T σ ρ → Coordination T σ ρ
  | .call t c => o.call t c
  | .resume t => (o.resume t).getD o
  | .tick => { o with task := o.task.tick.getD o.task }

def run (o : Coordination T σ ρ) (actions : List (Action T σ ρ)) : Coordination T σ ρ :=
  actions.foldl act o

/-- The job that an action submits, of a caller or of the job that runs. -/
def job? (o : Coordination T σ ρ) : Action T σ ρ → Option (Job σ ρ)
  | .call _ c => c.job?
  | .resume _ => none
  | .tick => match o.task.current with
    | some (_, .submit job _) => some job
    | _ => none

/-- The job that an action makes the current one. -/
def first? (o : Coordination T σ ρ) : Action T σ ρ → Option (Nat × Job σ ρ)
  | .tick => if o.task.current.isNone then o.task.queue.head? else none
  | _ => none

/-- The ticket of the job that acts. -/
def acting? (o : Coordination T σ ρ) : Action T σ ρ → Option Nat
  | .tick => o.task.current.map Prod.fst
  | _ => none

/-- What is seen of the actions of a run, in their order. -/
def observed {β : Type} (look : Coordination T σ ρ → Action T σ ρ → Option β)
    (o : Coordination T σ ρ) : List (Action T σ ρ) → List β
  | [] => []
  | a :: rest => (look o a).toList ++ observed look (o.act a) rest

/-- The job that an action submits and that the task accepts, with its ticket. -/
def accepts? (o : Coordination T σ ρ) (a : Action T σ ρ) : Option (Nat × Job σ ρ) :=
  (o.job? a).bind fun job => (o.task.submit job).1.toOption.map fun ticket => (ticket, job)

def accepted (o : Coordination T σ ρ) : List (Action T σ ρ) → List (Nat × Job σ ρ) :=
  observed accepts? o

def begun (o : Coordination T σ ρ) : List (Action T σ ρ) → List (Nat × Job σ ρ) :=
  observed first? o

/-- The tickets of the jobs that acted. -/
def activity (o : Coordination T σ ρ) : List (Action T σ ρ) → List Nat := observed acting? o

theorem observed_append {β : Type} (look : Coordination T σ ρ → Action T σ ρ → Option β)
    (o : Coordination T σ ρ) (before after : List (Action T σ ρ)) :
    observed look o (before ++ after) =
      observed look o before ++ observed look (o.run before) after := by
  induction before generalizing o with
  | nil => rfl
  | cons a rest ih =>
    simp only [List.cons_append, observed, ih, List.append_assoc]
    rfl

theorem observed_concat {β : Type} (look : Coordination T σ ρ → Action T σ ρ → Option β)
    (o : Coordination T σ ρ) (actions : List (Action T σ ρ)) (a : Action T σ ρ) :
    observed look o (actions ++ [a]) =
      observed look o actions ++ (look (o.run actions) a).toList := by
  simp [observed_append, observed]

theorem run_concat (o : Coordination T σ ρ) (actions : List (Action T σ ρ)) (a : Action T σ ρ) :
    o.run (actions ++ [a]) = (o.run actions).act a := by
  simp [run, List.foldl_append]

theorem run_append (o : Coordination T σ ρ) (before after : List (Action T σ ρ)) :
    o.run (before ++ after) = (o.run before).run after := by
  simp [run, List.foldl_append]

/-- What becomes of the task when a thread outside calls. -/
theorem task_call (o : Coordination T σ ρ) (t : T) (c : Call σ ρ) :
    (o.call t c).task = match c.job? with
      | some job => (o.task.submit job).2
      | none => o.task.close := by
  cases open? : o.task.accepting <;> cases c <;>
    simp [call, Task.submit, Task.close, setCaller, Call.job?, open?]
  rw [← open?]

theorem task_resume {o' : Coordination T σ ρ} {t : T} (h : o.resume t = some o') :
    o'.task = o.task := by
  unfold resume at h
  split at h
  · obtain ⟨e, _, rfl⟩ := Option.map_eq_some_iff.1 h
    cases e <;> rfl
  · obtain ⟨e, _, rfl⟩ := Option.map_eq_some_iff.1 h
    cases e <;> rfl
  · split at h
    · obtain rfl := Option.some.inj h
      rfl
    · cases h
  · cases h

theorem turn_of_tick (o : Coordination T σ ρ) :
    o.task.Turn (o.job? .tick) (o.first? .tick) (o.acting? .tick) (o.act .tick).task := by
  cases running : o.task.current with
  | none =>
    cases queued : o.task.queue with
    | nil => simpa [job?, first?, acting?, act, Task.tick, running, queued] using .pass
    | cons first rest =>
      simpa [job?, first?, acting?, act, Task.tick, running, queued] using .begin running queued
  | some current =>
    obtain ⟨ticket, job⟩ := current
    simp only [job?, first?, acting?, act, Task.tick, running]
    cases job with
    | done answer => exact .finish running rfl
    | panic => exact .finish running rfl
    | work change next => exact .work running
    | submit job next => exact .submit running
    | execute job next => exact .execute running
    | close next => exact .close running
    | isRunning next => exact .isRunning running

/-- An action makes one of the turns. -/
theorem turn_of_act (o : Coordination T σ ρ) (a : Action T σ ρ) :
    o.task.Turn (o.job? a) (o.first? a) (o.acting? a) (o.act a).task := by
  cases a with
  | tick => exact turn_of_tick o
  | resume t =>
    cases h : o.resume t with
    | none => simpa [job?, first?, acting?, act, h] using .pass
    | some o' => simpa [job?, first?, acting?, act, h, task_resume h] using .pass
  | call t c =>
    simp only [job?, first?, acting?, act, task_call]
    cases h : c.job? with
    | some job => exact .call job
    | none => exact .shutdown

/-- What holds at first and is kept by every action holds after every run. -/
theorem run_induction (o₀ : Coordination T σ ρ) {P : List (Action T σ ρ) → Prop} (init : P [])
    (kept : ∀ actions a, P actions →
      (o₀.run actions).task.Turn ((o₀.run actions).job? a) ((o₀.run actions).first? a)
        ((o₀.run actions).acting? a) (o₀.run (actions ++ [a])).task → P (actions ++ [a]))
    (actions : List (Action T σ ρ)) : P actions := by
  induction actions using List.reverseRecOn with
  | nil => exact init
  | append_singleton actions a ih =>
    exact kept actions a ih (run_concat o₀ actions a ▸ turn_of_act (o₀.run actions) a)

end Coordination
end ClusterDriver
