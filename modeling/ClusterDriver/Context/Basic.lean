import ClusterDriver.Context.Assembly
import ClusterDriver.Registry.Schedule
/-!
# Contexts

A context holds one cell for each component and gives them out. Making a context builds nothing.
Calls run on threads of the machine; `call` is one call with the machine left alone until no thread
can act.
-/
namespace ClusterDriver

abbrev ContextMachine := Machine String ComponentId ContextState Answer

structure Context where
  assembly : Assembly
  machine : ContextMachine

namespace Context

def ofAssembly (a : Assembly) : Context where
  assembly := a
  machine :=
    { label := ComponentId.name
      cells := fun id => .empty (Build.program id (a.builder id))
      detector := { isEnabled := a.settings.detectCycles }
      shared := {} }

def ofSettings (s : Settings) : Context := ofAssembly { settings := s }

def state (c : Context) : ContextState := c.machine.shared

def withState (c : Context) (s : ContextState) : Context :=
  { c with machine := { c.machine with shared := s } }

def isClosed (c : Context) : Bool := c.state.closed

/-- What the accessor of a component does. -/
def accessor (id : ComponentId) : ContextProgram := Build.program id (.require id)

def requireAll : List ComponentId → Build Unit
  | [] => pure ()
  | id :: rest => do
    let _ ← Build.require id
    requireAll rest

/-- Builds every component, up to the first that fails. -/
def initAll : ContextProgram := requireAll ComponentId.all fun _ => .ok .nothing

def closing : ContextProgram := Build.close fun _ => .ok .nothing

def settle (c : Context) : Context := { c with machine := c.machine.settle }

def start (c : Context) (thread : String) (program : ContextProgram) : Context :=
  { c with machine := c.machine.start thread program }

def openGate (c : Context) (gate : String) : Context :=
  { c with machine := c.machine.openGate gate }

/-- The outcome of a call, none if its thread is blocked for ever. -/
def call (c : Context) (thread : String) (program : ContextProgram) :
    Option (Outcome Failure Answer) × Context :=
  let c := (c.start thread program).settle
  match c.machine.threads.get? thread with
  | some (.done outcome) => (some outcome, c)
  | _ => (none, c)

/-- What a caller gets of a component. -/
inductive Got (β : Type) where
  | value (b : β)
  | error (e : AccessError)
  | panicked
  | blocked

def get (c : Context) (thread : String) (id : ComponentId) : Got id.Value × Context :=
  let (outcome, c) := c.call thread (accessor id)
  let got := match outcome with
    | none => .blocked
    | some .panicked => .panicked
    | some (.returned (.error failure)) => .error (failure.attributedTo id.name)
    | some (.returned (.ok answer)) => match answer.value? id with
      | some value => .value value
      | none => .panicked
  (got, c)

def replaceBuilder (c : Context) (id : ComponentId) (build : Build id.Value) : Bool × Context :=
  let (installed, machine) := c.machine.replace id (Build.program id build)
  (installed, { c with machine })

def status (c : Context) (id : ComponentId) : CellStatus := (c.machine.content id).status

def statuses (c : Context) : List (String × CellStatus) :=
  ComponentId.all.map fun id => (id.name, c.status id)

def statusIcon : CellStatus → String
  | .built => "✅"
  | .failed => "❌"
  | .building => "⏳"
  | .empty => "⏸️ "

def padded (width : Nat) (s : String) : String :=
  s ++ String.ofList (List.replicate (width - s.length) ' ')

def rule : String := "==========================================="

/-- The status of every component, as the driver logs it. -/
def statusLines (c : Context) : List String :=
  [rule, "  DRIVER CONTEXT STATUS", rule] ++
    c.statuses.map (fun s =>
      "  " ++ statusIcon s.2 ++ " " ++ padded 32 s.1 ++ " " ++ s.2.name) ++
    [rule]

def shape (c : Context) : Text.Shape :=
  .record "DriverContext"
    [("closed", .bool c.isClosed), ("detect_cycles", .bool c.machine.detector.isEnabled),
      ("components", .list (c.statuses.map fun s => .pair (.text s.1) (.word s.2.name)))]
    false

def manager? (c : Context) (id : ManagerId) : Option Manager := c.state.managers[id]?

/-- The node table of a manager. -/
def table (c : Context) (id : ManagerId) : NodeTable :=
  ((c.manager? id).map Manager.table).getD {}

def onManager {β : Type} (c : Context) (id : ManagerId) (f : Manager → β × Manager) :
    Option β × Context :=
  let (b, s) := c.state.onManager id f
  (b, c.withState s)

def onBus {β : Type} (c : Context) (id : BusId) (f : EventBus Event → β × EventBus Event) :
    Option β × Context :=
  let (b, s) := c.state.onBus id f
  (b, c.withState s)

/-- Acts on a manager, which exists if its identifier was handed out. -/
def perform {β : Type} (c : Context) (id : ManagerId)
    (f : Manager → Except AccessError β × Manager) : Except AccessError β × Context :=
  match c.onManager id f with
  | (some result, c) => (result, c)
  | (none, c) => (.error .closed, c)

def addContactPoints (c : Context) (thread : String) (id : ManagerId)
    (addresses : List Endpoint) : Except AccessError (List NodeId) × Context :=
  c.perform id fun m => m.addContactPoints thread addresses

/-- Gives every member its distance. The members are visited in this order, which is not theirs. -/
def initDistances (c : Context) (thread : String) (b : Balancer)
    (order : List Endpoint → List Endpoint) : Except AccessError Unit × Context :=
  c.perform b.manager fun m => m.perform thread fun t => ((), t.initDistances b.policy order)

def queryPlan (c : Context) (b : Balancer) : List Descriptor :=
  (c.table b.manager).queryPlan b.policy

/-- The settings for the first node that the plan tries. -/
def nextChannel (c : Context) (control : ControlConnection) : Option ChannelSettings :=
  (c.queryPlan control.balancer).head?.map fun d => control.channels.settingsFor d.address

def refreshNode (c : Context) (thread : String) (m : TopologyMonitor) (row : PeerRow) :
    Except AccessError NodeId × Context :=
  let row := row.translated m.translator
  c.perform m.manager fun k => k.perform thread fun t => t.applyRow m.balancer.policy row

def refreshAll (c : Context) (thread : String) (m : TopologyMonitor)
    (order : List Endpoint → List Endpoint) (rows : List PeerRow) :
    Except AccessError TopologyDiff × Context :=
  let rows := rows.map (·.translated m.translator)
  c.perform m.manager fun k =>
    k.perform thread fun t => t.refreshAll m.balancer.policy order rows

def statusEvent (c : Context) (thread : String) (m : TopologyMonitor) (address : Endpoint)
    (state : NodeState) : Except AccessError Unit × Context :=
  let address := m.translator.translate address
  c.perform m.manager fun k => k.post thread fun t => t.statusEvent address state

/-- Marks by the driver itself are about the address as it is given. -/
def forceDown (c : Context) (thread : String) (m : TopologyMonitor) (address : Endpoint) :
    Except AccessError Unit × Context :=
  c.perform m.manager fun k => k.post thread fun t => t.forceDown address

def forceUp (c : Context) (thread : String) (m : TopologyMonitor) (address : Endpoint) :
    Except AccessError Unit × Context :=
  c.perform m.manager fun k => k.post thread fun t => t.forceUp address

end Context
end ClusterDriver
