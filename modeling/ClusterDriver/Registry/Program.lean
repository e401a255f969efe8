import ClusterDriver.Error
/-!
# Programs

What a builder does, request by request. A program ends in a value, a failure or a panic. On the way
it may ask for cells, look at them, replace builders, see what its thread is building, change the
state that all threads share, and wait for a gate. Every constructor is one atomic action, apart
from `get`, which runs in stages. A panic below a `get` ends the program that asked as well:
programs that catch one and go on are not among these.

Threads are named by `T`, cells by `C`; `σ` is the shared state and `α` what cells hold.
-/
namespace ClusterDriver

/-- What can be seen of a cell. -/
inductive Content (α : Type) where
  | empty
  | building
  | built (value : α)
  | failed (error : AccessError)
  deriving DecidableEq, Repr

inductive CellStatus where
  | empty
  | building
  | built
  | failed
  deriving DecidableEq, Repr

def CellStatus.name : CellStatus → String
  | .empty => "Empty"
  | .building => "Building"
  | .built => "Built"
  | .failed => "Failed"

namespace Content
variable {α : Type}

def status : Content α → CellStatus
  | .empty => .empty
  | .building => .building
  | .built _ => .built
  | .failed _ => .failed

def peek : Content α → Option α
  | .built value => some value
  | _ => none

/-- The outcome that every caller gets, once there is one. -/
def outcome? : Content α → Option (Except AccessError α)
  | .built value => some (.ok value)
  | .failed error => some (.error error)
  | _ => none

end Content

inductive Program (T C σ α : Type) where
  | ok (value : α)
  | fail (failure : Failure)
  | panic
  | get (cell : C) (next : Except AccessError α → Program T C σ α)
  | look (cell : C) (next : Content α → Program T C σ α)
  /-- Puts another builder into a cell that was never asked for; says whether it did. -/
  | replace (cell : C) (builder : Program T C σ α) (next : Bool → Program T C σ α)
  /-- The cells that the thread is building, outermost first. -/
  | stack (next : List C → Program T C σ α)
  /-- Changes the shared state; goes on with the state that it found. -/
  | update (change : T → σ → σ) (next : T → σ → Program T C σ α)
  /-- Waits until a gate is open. -/
  | await (gate : String) (next : Program T C σ α)

namespace Program
variable {T C σ α : Type}

def read (next : T → σ → Program T C σ α) : Program T C σ α := .update (fun _ s => s) next

/-- Ends with an outcome that came from elsewhere. -/
def ofResult : Except AccessError α → Program T C σ α
  | .ok value => .ok value
  | .error error => .fail (.ofAccess error)

/-- Asks for one cell and ends with what it answers. -/
def ask (cell : C) : Program T C σ α := .get cell ofResult

end Program
end ClusterDriver
