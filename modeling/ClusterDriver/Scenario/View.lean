import ClusterDriver.Context.Basic
import ClusterDriver.Scenario.Bus
/-!
# Views

How the components of a context are shown.
-/
namespace ClusterDriver.Scenario

def addressesJson (nodes : List Descriptor) : Json :=
  .texts (nodes.map fun d => d.address.text)

def bytesJson (bytes : List UInt8) : Json := .text (Text.hexOfBytes bytes)

def codecJson (f : FrameCodec) : Json :=
  .object
    [("algorithm", .option .text f.compressor.algorithm),
      ("max_frame_length", .nat f.maxLength), ("debug", .text f.shape.line)]

def factoryJson (f : ChannelFactory) : Json :=
  .object
    [("initial", .text f.versions.initial.name), ("max_runs", .nat f.coalescer.maxRuns),
      ("debug", .text f.shape.line)]

def checkJson (f : FrameCodec) (length : Nat) : Json :=
  match f.checkLength length with
  | .ok _ => .text "ok"
  | .error e => .object [("error", .text "Frame"), ("message", .text e.message)]

def recordJson : MetricRecord → Json
  | .created address => .texts [address.text, "new"]
  | .gauge address metric value =>
    .list [.text address.text, .text metric.name, .nat value]

def tableJson (t : NodeTable) : Json :=
  .object
    [("count", .nat t.memberAddresses.length),
      ("nodes", .list (t.sortedMembers.map Descriptor.snapshot))]

/-- What a node prints as, and its counts. -/
def descriptorJson (d : Descriptor) : Json :=
  .list
    [.text d.address.text, .text d.shape.line, .nat d.openConnections, .bool d.isReconnecting]

def diffJson (d : TopologyDiff) : Json :=
  .object
    [("added", .texts (d.added.map Endpoint.text)),
      ("removed", .texts (d.removed.map Endpoint.text))]

def managerJson (c : Context) (id : ManagerId) : Json :=
  .option
    (fun m => .object
      [("running", .bool m.isRunning), ("nodes", .nat m.table.memberAddresses.length)])
    (c.manager? id)

def built : Json := .text "built"

/-- A component as it is shown to whoever asked for it. -/
def viewJson (c : Context) : (id : ComponentId) → id.Value → Json
  | .reconnectionPolicy, p => .object [("first_delay", (p.nextDelay 0).toJson)]
  | .authProvider, p => .option (fun a : AuthProvider => .text a.mechanism) p
  | .sslEngine, e => .option (fun e : SslEngine => .bool e.hostnameValidation) e
  | .eventBus, id => .option BusSession.info c.state.buses[id]?
  | .compressor, p => .object [("algorithm", .option .text p.algorithm)]
  | .frameCodec, f => codecJson f
  | .versionChoice, v => v.toJson
  | .transportOptions, o => o.toJson
  | .writeCoalescer, w => .object [("max_runs", .nat w.maxRuns)]
  | .sslHandler, e => .option (fun _ : SslEngine => built) e
  | .channelFactory, f => factoryJson f
  | .metadataManager, id => managerJson c id
  | _, _ => built

def tableViewJson {β : Type} (t : StrategyTable β) (id : String) : Json :=
  .list [.texts t.identifiers, .bool (t.contains id)]

def strategiesJson (t : Strategies) (id : String) : Json :=
  .object
    [("load_balancing", tableViewJson t.balancing id),
      ("reconnection", tableViewJson t.reconnection id),
      ("address_translation", tableViewJson t.addressing id),
      ("auth", tableViewJson t.auth id),
      ("ssl", tableViewJson t.ssl id),
      ("compression", tableViewJson t.compression id),
      ("debug", .text t.shape.line)]

end ClusterDriver.Scenario
