import ClusterDriver.Scenario.Turn
import ClusterDriver.Scenario.View
/-!
# Sessions over a context

Commands to one context and their answers.
-/
namespace ClusterDriver.Scenario

inductive ContextCommand where
  | get (id : ComponentId)
  | initAll
  | statuses
  | components
  | setBuilder (id : ComponentId) (plan : Plan Product)
  | close
  | isClosed
  | debug
  | stack
  | printStatus
  | strategies (id : String)
  | spawn (thread : String) (call : ThreadCall)
  | openGate (gate : String)
  | subscribe
  | poll (subscriber : Nat)
  | unsubscribe (subscriber : Nat)
  | publish (event : Event)
  | contactPoints
  /-- Without addresses, the contact points of the settings. -/
  | addContactPoints (addresses : Option (List Endpoint))
  | nodes
  | members
  | node (ref : NodeRef) (keep : Option String)
  | nodeDebug (ref : NodeRef)
  | same (a b : NodeRef)
  | job (mode : JobMode) (actions : List Action)
  | coordinator (shutdown : Bool)
  | metrics
  | initDistances
  | queryPlan
  | candidates
  /-- The plan that the policy makes of all members. -/
  | policyPlan
  | distance (ref : NodeRef)
  | refreshNode (row : PeerRow) (keep : Option String)
  | refreshAll (rows : List PeerRow)
  | statusEvent (address : Endpoint) (state : NodeState)
  | forceDown (address : Endpoint)
  | forceUp (address : Endpoint)
  | translate (address : Endpoint)
  | nextChannel
  | monitorChannel
  | controlSettings (address : Endpoint)
  | settingsFor (address : Endpoint)
  | settingsAt (address : Endpoint) (version : ProtocolVersion)
  | reconnectionDelay (attempt : Nat)
  | shouldPark (runs : Nat)
  | checkFrame (length : Nat)
  | compress (bytes : List UInt8)
  | downgrade (version : ProtocolVersion)
  | initialResponse (address : Endpoint)
  | sslTarget (address : Endpoint)

namespace Turn

def publish (event : Event) : Turn Json := do
  let bus ← component .eventBus
  let count ← act (·.onBus bus (·.publish event))
  return .option .nat count

def subscribe : Turn Json := do
  let bus ← component .eventBus
  match ← act (·.onBus bus EventBus.subscribe) with
  | none => return .null
  | some number =>
    let s ← get
    set { s with subscribers := s.subscribers ++ [(bus, number)] }
    return .nat s.subscribers.length

def noSuchSubscriber : Json := .text "no such subscriber"

def subscriber (number : Nat) : Turn (BusId × Nat) := do
  match (← get).subscribers[number]? with
  | some s => return s
  | none => throw noSuchSubscriber

def poll (number : Nat) : Turn Json := do
  let (bus, number) ← subscriber number
  let received ← act fun c => c.onBus bus fun b =>
    if b.cursors.contains number then
      let (rs, b) := b.receiveAll number
      (some rs, b)
    else (none, b)
  match received.join with
  | some rs => return .list ((canonical rs).map receivedJson)
  | none => return noSuchSubscriber

def unsubscribe (number : Nat) : Turn Json := do
  let (bus, number) ← subscriber number
  let _ ← act (·.onBus bus fun b => ((), b.unsubscribe number))
  return .null

def spawn (thread : String) (call : ThreadCall) : Turn Json := do
  let program := match call with
    | .close => Context.closing
    | .initAll => Context.initAll
    | .component id => Context.accessor id
  modify fun s => { s with
    context := (s.context.start thread program).settle
    threads := s.threads.insert thread call }
  return .null

def addContactPoints (addresses : Option (List Endpoint)) : Turn Json := do
  let c ← context
  let addresses ← ofResult <| match addresses with
    | some addresses => .ok addresses
    | none => ContactPoints.ofSettings c.assembly.settings
  let manager ← component .metadataManager
  let ids ← perform (·.addContactPoints mainThread manager addresses)
  let table := (← context).table manager
  ok (addressesJson (ids.filterMap table.descriptor?))

def job (mode : JobMode) (actions : List Action) : Turn Json := do
  let manager ← component .metadataManager
  let reply ← act (·.onManager manager fun m => m.call mainThread (mode.call actions))
  return mode.replyJson reply.join

def coordinator (shutdown : Bool) : Turn Json := do
  let manager ← component .metadataManager
  if shutdown then
    modify fun s => { s with
      context := s.context.withState (s.context.state.closeManager mainThread manager) }
  let running := ((← context).manager? manager).any Manager.isRunning
  return .object [("running", .bool running), ("on_thread", .bool false)]

/-- The records since they were asked for the last time. -/
def metrics : Turn Json := do
  let records ← act fun c =>
    let taken := c.state.managers.map Manager.takeRecords
    (taken.flatMap Prod.fst, c.withState { c.state with managers := taken.map Prod.snd })
  return .list (records.map recordJson)

def same (a b : NodeRef) : Turn Json := do
  let first ← node? a
  let second ← node? b
  match first, second, ← descriptor? a, ← descriptor? b with
  | some n, some m, some d, some e =>
    let equal := Json.bool (d.address = e.address)
    return .object [("equal", equal), ("in_set", equal), ("same_record", .bool (n = m))]
  | _, _, _, _ => return .null

def refreshNode (row : PeerRow) (keep : Option String) : Turn Json := do
  let monitor ← component .topologyMonitor
  let id ← perform (·.refreshNode mainThread monitor row)
  keepNode keep monitor.manager id
  ok (snapshotJson ((← context).table monitor.manager) id)

/-- Queues a report for the topology monitor, and waits through the manager until it was acted
on. -/
def post (f : Context → TopologyMonitor → Except AccessError Unit × Context) : Turn Json := do
  let monitor ← component .topologyMonitor
  perform fun c => f c monitor
  let _ ← component .metadataManager
  ok .null

def channelJson (control : ControlConnection) : Turn Json := do
  return .option ChannelSettings.toJson ((← context).nextChannel control)

def answer : ContextCommand → Turn Json
  | .get id => do
    let value ← access id
    ok (viewJson (← context) id value)
  | .initAll => return outcomeJson (fun _ => .null) (← call Context.initAll)
  | .statuses => do
    return .list ((← context).statuses.map fun s => .texts [s.1, s.2.name])
  | .components => return .texts (ComponentId.all.map ComponentId.name)
  | .setBuilder id plan => do
    let installed ← act fun c =>
      c.replaceBuilder id
        (plan.product.build c.assembly id
          (scripted id.name ((componentMeaning c.assembly).perform plan.steps [])))
    return .bool installed
  | .close => do
    let _ ← call Context.closing
    return .null
  | .isClosed => return .bool (← context).isClosed
  | .debug => return .text (← context).shape.line
  | .stack => do
    return .texts (((← context).machine.detector.stack mainThread).map ComponentId.name)
  | .printStatus => return .texts (← context).statusLines
  | .strategies id => return strategiesJson (← context).assembly.strategies id
  | .spawn thread c => spawn thread c
  | .openGate gate => do
    modify fun s => { s with context := (s.context.openGate gate).settle }
    return .null
  | .subscribe => subscribe
  | .poll subscriber => poll subscriber
  | .unsubscribe subscriber => unsubscribe subscriber
  | .publish event => publish event
  | .contactPoints => return contactPointsJson (← context).assembly.settings
  | .addContactPoints addresses => addContactPoints addresses
  | .nodes => return tableJson (← members)
  | .members => return memberTexts (← members)
  | .node ref keep => do
    match ← node? ref with
    | none => return .null
    | some (manager, id) =>
      keepNode keep manager id
      return snapshotJson ((← context).table manager) id
  | .nodeDebug ref => return .option descriptorJson (← descriptor? ref)
  | .same a b => same a b
  | .job mode actions => job mode actions
  | .coordinator shutdown => coordinator shutdown
  | .metrics => metrics
  | .initDistances => do
    let balancer ← component .balancer
    perform (·.initDistances mainThread balancer Endpoint.sort)
    ok .null
  | .queryPlan => do
    let balancer ← component .balancer
    return addressesJson ((← context).queryPlan balancer)
  | .candidates => do
    let control ← component .controlConnection
    return addressesJson ((← context).queryPlan control.balancer)
  | .policyPlan => do
    let balancer ← component .balancer
    let table ← members
    return addressesJson (balancer.policy.plan table.sortedMembers)
  | .distance ref => do
    let balancer ← component .balancer
    return .option (fun d => .text (balancer.policy.distance d).code) (← descriptor? ref)
  | .refreshNode row keep => refreshNode row keep
  | .refreshAll rows => do
    let monitor ← component .topologyMonitor
    ok (diffJson (← perform (·.refreshAll mainThread monitor Endpoint.sort rows)))
  | .statusEvent address state => post fun c m => c.statusEvent mainThread m address state
  | .forceDown address => post fun c m => c.forceDown mainThread m address
  | .forceUp address => post fun c m => c.forceUp mainThread m address
  | .translate address => do
    let translator ← component .addressTranslator
    return .text (translator.translate address).text
  | .nextChannel => do channelJson (← component .controlConnection)
  | .monitorChannel => do channelJson (← component .topologyMonitor).control
  | .controlSettings address => do
    let control ← component .controlConnection
    return (control.channels.settingsFor address).toJson
  | .settingsFor address => do
    let channels ← component .channelFactory
    return (channels.settingsFor address).toJson
  | .settingsAt address version => do
    let channels ← component .channelFactory
    return (channels.settingsAt address version).toJson
  | .reconnectionDelay attempt => do
    let control ← component .controlConnection
    return (control.reconnection.nextDelay attempt).toJson
  | .shouldPark runs => do
    let coalescer ← component .writeCoalescer
    return .bool (coalescer.shouldPark runs)
  | .checkFrame length => do
    let codec ← component .frameCodec
    return checkJson codec length
  | .compress bytes => do
    let compressor ← component .compressor
    let packed := compressor.compress bytes
    return .list [bytesJson packed, bytesJson (compressor.decompress packed)]
  | .downgrade version => do
    let versions ← component .versionChoice
    return .option (fun v => .text v.name) (versions.downgrade version)
  | .initialResponse address => do
    let auth ← component .authProvider
    return .option (fun a : AuthProvider => bytesJson (a.initialResponse address)) auth
  | .sslTarget address => do
    let ssl ← component .sslHandler
    return .option (fun e : SslEngine => (e.target address).toJson) ssl

end Turn

namespace ContextSession

def threadJson (s : ContextSession) (thread : String × ThreadCall) : String × Json :=
  let done : Outcome Failure Answer → Json := match thread.2 with
    | .close => fun _ => .null
    | _ => outcomeJson fun _ => .null
  (thread.1, .option (standingJson done) (s.context.machine.standing? thread.1))

/-- The lines that builders reported, and then those that jobs noted. -/
def takeLines (s : ContextSession) : List (String × String) × ContextSession :=
  let state := s.context.state
  let taken := state.managers.map Manager.takeNotes
  let notes := (taken.flatMap Prod.fst).map fun line => (mainThread, line)
  (state.journal ++ notes,
    { s with context :=
        s.context.withState { state with journal := [], managers := taken.map Prod.snd } })

def step (s : ContextSession) (command : ContextCommand) : Json × ContextSession :=
  let (result, s) := (Turn.answer command).run.run s
  let answer := match result with
    | .ok j => j
    | .error j => j
  let (lines, s) := s.takeLines
  let report : StepReport :=
    { answer
      cells := ComponentId.all.map s.context.status
      lines
      threads := s.threads.entries.map s.threadJson }
  (report.toJson, s)

def run (s : ContextSession) : List ContextCommand → List Json
  | [] => []
  | command :: rest =>
    let (reply, s) := s.step command
    reply :: s.run rest

end ContextSession
end ClusterDriver.Scenario
