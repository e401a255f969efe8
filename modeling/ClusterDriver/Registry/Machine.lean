import ClusterDriver.Registry.Program
import ClusterDriver.Registry.WaitGraph
/-!
# Machine

Threads that share cells. A cell holds its builder until the first request, and then the outcome of
that one build. `step` performs one atomic action of one thread, so a run is any sequence of steps
of any threads. A request for a cell has these stages: it looks whether the cell is complete; it
registers the wait, and is refused if that would close a loop; under the lock of the cell it is
served, or waits, or claims the cell; having claimed it, it takes back the wait, becomes the
builder, runs the program, publishes the outcome and leaves.

Locks give mutual exclusion and publishing wakes every waiter; the rest is in the steps.
-/
namespace ClusterDriver

inductive Cell (T C σ α : Type) where
  | empty (builder : Program T C σ α)
  | building
  | built (value : α)
  | failed (error : AccessError)

namespace Cell
variable {T C σ α : Type}

def content : Cell T C σ α → Content α
  | .empty _ => .empty
  | .building => .building
  | .built value => .built value
  | .failed error => .failed error

def ofResult : Except AccessError α → Cell T C σ α
  | .ok value => .built value
  | .error error => .failed error

end Cell

/-- How a program ended. `ε` is the type of errors. -/
inductive Outcome (ε α : Type) where
  | returned (result : Except ε α)
  | panicked

/-- A request under way: the cell, and what the requester does with the answer. -/
structure Request (T C σ α : Type) where
  cell : C
  next : Except AccessError α → Program T C σ α

inductive Stage (T C σ α : Type) where
  | check
  | register
  /-- About to lock the cell, or waiting for its outcome. -/
  | inspect
  /-- Served by the cell, with the wait still registered. -/
  | served (result : Except AccessError α)
  /-- Has claimed the cell, with the wait still registered. -/
  | claimed (builder : Program T C σ α)
  | cleared (builder : Program T C σ α)
  /-- The program has ended; its outcome is not published yet. -/
  | ended (outcome : Outcome AccessError α)
  /-- Published, but still on the thread's stack. -/
  | published (outcome : Outcome AccessError α)

/-- A thread runs the program of its innermost request, or its own, or is inside a request. The
requests around it are listed from the inside out. -/
inductive Thread (T C σ α : Type) where
  | run (requests : List (Request T C σ α)) (program : Program T C σ α)
  | request (stage : Stage T C σ α) (request : Request T C σ α) (outer : List (Request T C σ α))
  | done (outcome : Outcome Failure α)

structure Machine (T C σ α : Type) where
  label : C → String
  cells : C → Cell T C σ α
  detector : Detector T C
  shared : σ
  gates : List String := []
  threads : Table T (Thread T C σ α) := .empty

namespace Machine
variable {T C σ α : Type} [DecidableEq T] [DecidableEq C]

def content (m : Machine T C σ α) (c : C) : Content α := (m.cells c).content

def setCell (m : Machine T C σ α) (c : C) (cell : Cell T C σ α) : Machine T C σ α :=
  { m with cells := fun d => if d = c then cell else m.cells d }

def setThread (m : Machine T C σ α) (t : T) (thread : Thread T C σ α) : Machine T C σ α :=
  { m with threads := m.threads.insert t thread }

/-- Effective only while the cell was never asked for. -/
def replace (m : Machine T C σ α) (c : C) (builder : Program T C σ α) : Bool × Machine T C σ α :=
  match m.cells c with
  | .empty _ => (true, m.setCell c (.empty builder))
  | _ => (false, m)

/-- What becomes of a cell whose program ended so. -/
def settled (m : Machine T C σ α) (c : C) : Outcome AccessError α → Cell T C σ α
  | .returned result => .ofResult result
  | .panicked => .failed (.panicked (m.label c))

/-- How the end of a program is attributed to its cell. -/
def attributed (m : Machine T C σ α) (c : C) : Outcome Failure α → Outcome AccessError α
  | .returned (.ok value) => .returned (.ok value)
  | .returned (.error failure) => .returned (.error (failure.attributedTo (m.label c)))
  | .panicked => .panicked

/-- Where a thread stands after its program ended. -/
def ended (m : Machine T C σ α) (outcome : Outcome Failure α) :
    List (Request T C σ α) → Thread T C σ α
  | [] => .done outcome
  | r :: outer => .request (.ended (m.attributed r.cell outcome)) r outer

def runStep (m : Machine T C σ α) (t : T) (requests : List (Request T C σ α)) :
    Program T C σ α → Option (Machine T C σ α)
  | .ok value => some (m.setThread t (m.ended (.returned (.ok value)) requests))
  | .fail failure => some (m.setThread t (m.ended (.returned (.error failure)) requests))
  | .panic => some (m.setThread t (m.ended .panicked requests))
  | .get cell next => some (m.setThread t (.request .check ⟨cell, next⟩ requests))
  | .look cell next => some (m.setThread t (.run requests (next (m.content cell))))
  | .replace cell builder next =>
    let (installed, m) := m.replace cell builder
    some (m.setThread t (.run requests (next installed)))
  | .stack next => some (m.setThread t (.run requests (next (m.detector.stack t))))
  | .update change next =>
    some ({ m with shared := change t m.shared }.setThread t (.run requests (next t m.shared)))
  | .await gate next => if gate ∈ m.gates then some (m.setThread t (.run requests next)) else none

def requestStep (m : Machine T C σ α) (t : T) (r : Request T C σ α)
    (outer : List (Request T C σ α)) : Stage T C σ α → Option (Machine T C σ α)
  | .check =>
    match (m.content r.cell).outcome? with
    | some result => some (m.setThread t (.run outer (r.next result)))
    | none => some (m.setThread t (.request .register r outer))
  | .register =>
    match m.detector.request t r.cell with
    | .error chain =>
      some (m.setThread t (.run outer (r.next (.error (.cycle (chain.map m.label))))))
    | .ok detector => some ({ m with detector }.setThread t (.request .inspect r outer))
  | .inspect =>
    match m.cells r.cell with
    | .built value => some (m.setThread t (.request (.served (.ok value)) r outer))
    | .failed error => some (m.setThread t (.request (.served (.error error)) r outer))
    | .building => none
    | .empty builder =>
      some ((m.setCell r.cell .building).setThread t (.request (.claimed builder) r outer))
  | .served result =>
    some ({ m with detector := m.detector.stopWaiting t }.setThread t (.run outer (r.next result)))
  | .claimed builder =>
    some ({ m with detector := m.detector.stopWaiting t }.setThread t
      (.request (.cleared builder) r outer))
  | .cleared builder =>
    some ({ m with detector := m.detector.enter t r.cell }.setThread t (.run (r :: outer) builder))
  | .ended outcome =>
    some ((m.setCell r.cell (m.settled r.cell outcome)).setThread t
      (.request (.published outcome) r outer))
  | .published outcome =>
    let m := { m with detector := m.detector.leave t r.cell }
    match outcome with
    | .returned result => some (m.setThread t (.run outer (r.next result)))
    | .panicked => some (m.setThread t (.run outer .panic))

/-- One atomic action of a thread, unless it has ended or is blocked. -/
def step (m : Machine T C σ α) (t : T) : Option (Machine T C σ α) :=
  match m.threads.get? t with
  | none => none
  | some (.done _) => none
  | some (.run requests program) => m.runStep t requests program
  | some (.request stage r outer) => m.requestStep t r outer stage

def start (m : Machine T C σ α) (t : T) (program : Program T C σ α) : Machine T C σ α :=
  m.setThread t (.run [] program)

def openGate (m : Machine T C σ α) (gate : String) : Machine T C σ α :=
  { m with gates := gate :: m.gates }

/-- How a thread appears from outside. -/
inductive Standing (α : Type) where
  | done (outcome : Outcome Failure α)
  | atGate (gate : String)
  | blocked

def standing? (m : Machine T C σ α) (t : T) : Option (Standing α) :=
  (m.threads.get? t).map fun
    | .done outcome => .done outcome
    | .run _ (.await gate _) => .atGate gate
    | _ => .blocked

end Machine
end ClusterDriver
