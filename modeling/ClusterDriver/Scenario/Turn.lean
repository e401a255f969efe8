import ClusterDriver.Scenario.Jobs
import ClusterDriver.Scenario.Options
import ClusterDriver.Scenario.Report
import ClusterDriver.Scenario.Setup
/-!
# Turns

What a session over a context keeps between its steps: the components that it obtained, which stay
in use after the context is closed, its subscribers, and the threads that it started. A turn is a
part of a step, which may end the step early.
-/
namespace ClusterDriver.Scenario

/-- The one call that a started thread makes. -/
inductive ThreadCall where
  | close
  | initAll
  | component (id : ComponentId)

structure ContextSession where
  context : Context
  /-- The first value that was obtained of each component. -/
  kept : (id : ComponentId) → Option id.Value := fun _ => none
  /-- The bus of each subscriber, and its number there. -/
  subscribers : List (BusId × Nat) := []
  /-- The call of every thread; a name that is used again stands for the later thread. -/
  threads : Table String ThreadCall := .empty

namespace ContextSession

def ofDeclarations (settings : SettingsDeclaration) (strategies : StrategiesDeclaration) :
    ContextSession :=
  { context := .ofAssembly (strategies.assembly settings.settings) }

/-- Keeps a value, unless one is kept already. -/
def keep (s : ContextSession) (id : ComponentId) (value : id.Value) : ContextSession :=
  match s.kept id with
  | some _ => s
  | none =>
    { s with kept := fun other => if h : other = id then some (h ▸ value) else s.kept other }

/-- A descriptor that was kept under a name, with its manager. -/
def bookmark? (s : ContextSession) (name : String) : Option (ManagerId × NodeId) :=
  s.context.state.managers.zipIdx.findSome? fun m =>
    (m.1.ledger.bookmarks.get? name).map fun id => (m.2, id)

end ContextSession

/-- A part of a step. When it fails, the error is the answer of the step. -/
abbrev Turn := ExceptT Json (StateM ContextSession)

namespace Turn
variable {β : Type}

def context : Turn Context := return (← get).context

/-- Acts on the context. -/
def act (f : Context → β × Context) : Turn β := do
  let s ← get
  let (b, context) := f s.context
  set { s with context }
  return b

/-- What the accessor of a component gives, which is kept. -/
def access (id : ComponentId) : Turn id.Value := do
  match ← act (·.get mainThread id) with
  | .value value =>
    modify (·.keep id value)
    return value
  | .error e => throw e.toJson
  | .panicked => throw panicJson
  | .blocked => throw hungJson

/-- The component that is kept, or else what its accessor gives. -/
def component (id : ComponentId) : Turn id.Value := do
  match (← get).kept id with
  | some value => return value
  | none => access id

def ofResult : Except AccessError β → Turn β
  | .ok b => return b
  | .error e => throw e.toJson

/-- Acts on the context with a result. -/
def perform (f : Context → Except AccessError β × Context) : Turn β := do
  ofResult (← act f)

def ok (j : Json) : Turn Json := return .object [("ok", j)]

/-- A call on the session's own thread. -/
def call (program : ContextProgram) : Turn (Outcome Failure Answer) := do
  match ← act (·.call mainThread program) with
  | some outcome => return outcome
  | none => throw hungJson

def members : Turn NodeTable := do
  let manager ← component .metadataManager
  return (← context).table manager

/-- A node, with its manager. Members are looked up in the manager of the context. -/
def node? : NodeRef → Turn (Option (ManagerId × NodeId))
  | .kept name => return (← get).bookmark? name
  | .member address => do
    let manager ← component .metadataManager
    return (((← context).table manager).member? address).map fun id => (manager, id)

def descriptor? (ref : NodeRef) : Turn (Option Descriptor) := do
  let found ← node? ref
  let c ← context
  return found.bind fun n => (c.table n.1).descriptor? n.2

def keepNode (keep : Option String) (manager : ManagerId) (id : NodeId) : Turn Unit := do
  let _ ← act (·.onManager manager fun m => ((), m.keep keep id))

end Turn
end ClusterDriver.Scenario
