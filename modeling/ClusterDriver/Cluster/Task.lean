import ClusterDriver.Error
import ClusterDriver.Table
/-!
# Coordination task

A queue of jobs that one thread, the coordination thread, runs one at a time in the order in which
they were accepted. Only this thread changes the state `σ`. A job that panics ends there; the thread
goes on with the next one. Once the task is closed it accepts nothing more, and what it had accepted
still runs.
-/
namespace ClusterDriver

/-- What a job does, action by action. It ends in an answer or a panic. -/
inductive Job (σ ρ : Type) where
  | done (answer : ρ)
  | panic
  /-- Changes the state; goes on with the state that it found. -/
  | work (change : σ → σ) (next : σ → Job σ ρ)
  | submit (job : Job σ ρ) (next : Except AccessError Unit → Job σ ρ)
  /-- Asks the task to run another job and to wait for it, which would be to wait for itself. -/
  | execute (job : Job σ ρ) (next : Except AccessError ρ → Job σ ρ)
  | close (next : Job σ ρ)
  | isRunning (next : Bool → Job σ ρ)

/-- The end of a job. -/
inductive JobEnd (ρ : Type) where
  | answered (answer : ρ)
  | panicked
  deriving DecidableEq, Repr

structure Task (σ ρ : Type) where
  state : σ
  accepting : Bool := true
  /-- How many jobs were accepted. A job's ticket is the number of jobs accepted before it. -/
  accepted : Nat := 0
  queue : List (Nat × Job σ ρ) := []
  current : Option (Nat × Job σ ρ) := none
  /-- The jobs that have ended, in the order in which they did. -/
  ended : List (Nat × JobEnd ρ) := []

def adminThread : String := "driver-admin"

def waitsOnItself : AccessError :=
  .build adminThread "execute() called from a coordination job would wait on itself"

namespace Task
variable {σ ρ : Type}

def submit (k : Task σ ρ) (job : Job σ ρ) : Except AccessError Nat × Task σ ρ :=
  if k.accepting then
    (.ok k.accepted,
      { k with accepted := k.accepted + 1, queue := k.queue ++ [(k.accepted, job)] })
  else (.error .closed, k)

def close (k : Task σ ρ) : Task σ ρ := { k with accepting := false }

def finish (k : Task σ ρ) (ticket : Nat) (e : JobEnd ρ) : Task σ ρ :=
  { k with current := none, ended := k.ended ++ [(ticket, e)] }

/-- One action of the job that runs. -/
def act (k : Task σ ρ) (ticket : Nat) : Job σ ρ → Task σ ρ
  | .done answer => k.finish ticket (.answered answer)
  | .panic => k.finish ticket .panicked
  | .work change next => { k with state := change k.state, current := some (ticket, next k.state) }
  | .submit job next =>
    let (result, k) := k.submit job
    { k with current := some (ticket, next (result.map fun _ => ())) }
  | .execute _ next => { k with current := some (ticket, next (.error waitsOnItself)) }
  | .close next => { k.close with current := some (ticket, next) }
  | .isRunning next => { k with current := some (ticket, next k.accepting) }

/-- One action of the coordination thread, unless there is nothing to do. -/
def tick (k : Task σ ρ) : Option (Task σ ρ) :=
  match k.current with
  | some (ticket, job) => some (k.act ticket job)
  | none =>
    match k.queue with
    | [] => none
    | next :: rest => some { k with current := some next, queue := rest }

def settleWithin (fuel : Nat) (k : Task σ ρ) : Task σ ρ :=
  match fuel with
  | 0 => k
  | fuel + 1 =>
    match k.tick with
    | none => k
    | some k => k.settleWithin fuel

/-- Far more actions than jobs take between two observations. -/
def patience : Nat := 1000000

/-- The task when it has nothing left to do. -/
def settle (k : Task σ ρ) : Task σ ρ := k.settleWithin patience

def end? (k : Task σ ρ) (ticket : Nat) : Option (JobEnd ρ) :=
  (k.ended.find? fun e => e.1 = ticket).map Prod.snd

/-- Closed, and with nothing left to run. -/
def hasStopped (k : Task σ ρ) : Bool := !k.accepting && k.queue.isEmpty && k.current.isNone

end Task

/-- What a thread asks of the task from outside. -/
inductive Call (σ ρ : Type) where
  | submit (job : Job σ ρ)
  /-- Submits, and waits for the answer through a receiver of its own. -/
  | await (job : Job σ ρ)
  | execute (job : Job σ ρ)
  | shutdown

inductive Reply (ρ : Type) where
  | accepted
  | answer (answer : ρ)
  /-- The job ended without an answer. -/
  | dropped
  deriving DecidableEq, Repr

inductive Caller (ρ : Type) where
  | receiving (ticket : Nat)
  | executing (ticket : Nat)
  /-- Waits for the coordination thread to stop. -/
  | joining
  | returned (result : Except AccessError (Reply ρ))

/-- The task with the threads that have called it. -/
structure Coordination (T σ ρ : Type) where
  task : Task σ ρ
  callers : Table T (Caller ρ) := .empty

namespace Coordination
variable {T σ ρ : Type} [DecidableEq T]

def setCaller (o : Coordination T σ ρ) (t : T) (c : Caller ρ) : Coordination T σ ρ :=
  { o with callers := o.callers.insert t c }

def call (o : Coordination T σ ρ) (t : T) : Call σ ρ → Coordination T σ ρ
  | .submit job =>
    let (result, task) := o.task.submit job
    { o with task }.setCaller t (.returned (result.map fun _ => .accepted))
  | .await job =>
    match o.task.submit job with
    | (.ok ticket, task) => { o with task }.setCaller t (.receiving ticket)
    | (.error e, _) => o.setCaller t (.returned (.error e))
  | .execute job =>
    match o.task.submit job with
    | (.ok ticket, task) => { o with task }.setCaller t (.executing ticket)
    | (.error e, _) => o.setCaller t (.returned (.error e))
  | .shutdown =>
    if o.task.accepting then { o with task := o.task.close }.setCaller t .joining
    else o.setCaller t (.returned (.ok .accepted))

/-- The return of a thread that waits, unless it has to wait on. -/
def resume (o : Coordination T σ ρ) (t : T) : Option (Coordination T σ ρ) :=
  match o.callers.get? t with
  | some (.receiving ticket) =>
    (o.task.end? ticket).map fun
      | .answered a => o.setCaller t (.returned (.ok (.answer a)))
      | .panicked => o.setCaller t (.returned (.ok .dropped))
  | some (.executing ticket) =>
    (o.task.end? ticket).map fun
      | .answered a => o.setCaller t (.returned (.ok (.answer a)))
      | .panicked => o.setCaller t (.returned (.error .closed))
  | some .joining =>
    if o.task.hasStopped then some (o.setCaller t (.returned (.ok .accepted))) else none
  | _ => none

def settle (o : Coordination T σ ρ) : Coordination T σ ρ := { o with task := o.task.settle }

/-- A call with nobody else calling: the task runs until it is idle. -/
def callAndSettle (o : Coordination T σ ρ) (t : T) (c : Call σ ρ) :
    Option (Except AccessError (Reply ρ)) × Coordination T σ ρ :=
  let o := (o.call t c).settle
  let o := (o.resume t).getD o
  match o.callers.get? t with
  | some (.returned result) => (some result, o)
  | _ => (none, o)

end Coordination
end ClusterDriver
