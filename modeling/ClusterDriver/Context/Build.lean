import ClusterDriver.Context.State
import ClusterDriver.Registry.Program
/-!
# Building

A build of a `β` is a program that goes on with a `β`, so that builders can be written one step
after the other. Components are read through the accessors of the context, which refuse once it is closed.
-/
namespace ClusterDriver

abbrev ContextProgram := Program String ComponentId ContextState Answer

def Build (β : Type) : Type := (β → ContextProgram) → ContextProgram

namespace Build
variable {β γ : Type}

instance : Monad Build where
  pure b := fun next => next b
  bind build f := fun next => build fun b => f b next

def raise (failure : Failure) : Build β := fun _ => .fail failure

def panic : Build β := fun _ => .panic

def ofResult : Except AccessError β → Build β
  | .ok b => pure b
  | .error e => raise (.ofAccess e)

/-- The shared state as it is now. -/
def state : Build ContextState := fun next => .read fun _ s => next s

def report (line : String) : Build Unit :=
  fun next => .update (fun thread s => s.report thread line) fun _ _ => next ()

def content (id : ComponentId) : Build (Content Answer) := fun next => .look id next

/-- The component itself, built if it has to be. -/
def cell (id : ComponentId) : Build (Except AccessError id.Value) := fun next =>
  .get id fun
    | .error e => next (.error e)
    | .ok answer => match answer.value? id with
      | some value => next (.ok value)
      | none => .panic

/-- The accessor of a component. -/
def get (id : ComponentId) : Build (Except AccessError id.Value) := do
  if (← state).closed then return .error .closed
  cell id

/-- Reads a component that the build cannot do without. -/
def require (id : ComponentId) : Build id.Value := do
  ofResult (← get id)

/-- Closes the context, once. A manager that is being built is waited for, then stopped; closing
never starts a build. -/
def close : Build Unit := do
  let found ← fun next => .update (fun _ s => { s with closed := true }) fun _ s => next s
  if found.closed then return ()
  if (← content .metadataManager).status = .empty then return ()
  match ← cell .metadataManager with
  | .error _ => return ()
  | .ok id => fun next => .update (fun thread s => s.closeManager thread id) fun _ _ => next ()

/-- A bus that cannot be made ends the build in a panic. -/
def makeBus (capacity : Nat) : Build BusId :=
  if EventBus.admits capacity then
    fun next => .update (fun _ s => s.addBus capacity) fun _ s => next s.buses.length
  else panic

/-- Starts a metadata manager with its coordination thread. -/
def startManager (factory : MetricsFactory) (bus : BusId) : Build ManagerId :=
  fun next => .update (fun _ s => s.addManager factory bus) fun _ s => next s.managers.length

def stopManager (id : ManagerId) : Build Unit :=
  fun next => .update (fun thread s => s.closeManager thread id) fun _ _ => next ()

/-- The program of a cell. -/
def program (id : ComponentId) (build : Build id.Value) : ContextProgram :=
  build fun value => .ok (.component id value)

end Build
end ClusterDriver
