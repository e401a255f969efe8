import ClusterDriver.Cluster.Version
import ClusterDriver.Cluster.TokenSet
import ClusterDriver.Net.AddressText
import ClusterDriver.Text.Shape
import ClusterDriver.Uuid
/-!
# Node descriptors

The record of one cluster node. Its address is its identity and never changes; all else changes
only by applying a `Change`, and what a change publishes and records is a function of the
descriptor it finds.
-/
namespace ClusterDriver

inductive NodeState where
  | unknown
  | up
  | down
  /-- Marked down by the driver itself; reports from the cluster do not count. -/
  | forcedDown
  deriving DecidableEq, Repr

inductive NodeDistance where
  | near
  | remote
  /-- Never used for requests. -/
  | ignored
  deriving DecidableEq, Repr

namespace NodeState

def code : NodeState → String
  | .unknown => "UNKNOWN"
  | .up => "UP"
  | .down => "DOWN"
  | .forcedDown => "FORCED_DOWN"

def name : NodeState → String
  | .unknown => "Unknown"
  | .up => "Up"
  | .down => "Down"
  | .forcedDown => "ForcedDown"

def all : List NodeState := [.unknown, .up, .down, .forcedDown]

def ofCode? (code : String) : Option NodeState := all.find? fun s => s.code = code

end NodeState

namespace NodeDistance

def code : NodeDistance → String
  | .near => "LOCAL"
  | .remote => "REMOTE"
  | .ignored => "IGNORED"

def name : NodeDistance → String
  | .near => "Local"
  | .remote => "Remote"
  | .ignored => "Ignored"

def all : List NodeDistance := [.near, .remote, .ignored]

def ofCode? (code : String) : Option NodeDistance := all.find? fun d => d.code = code

end NodeDistance

/-- A change that subscribers are told of. -/
inductive Event where
  | nodeAdded (address : Endpoint)
  | nodeRemoved (address : Endpoint)
  | stateChanged (address : Endpoint) (old new : NodeState)
  | distanceChanged (address : Endpoint) (old new : NodeDistance)
  deriving DecidableEq, Repr

namespace Event

def address : Event → Endpoint
  | .nodeAdded a | .nodeRemoved a | .stateChanged a _ _ | .distanceChanged a _ _ => a

def kind : Event → String
  | .nodeAdded _ => "node_added"
  | .nodeRemoved _ => "node_removed"
  | .stateChanged .. => "node_state_changed"
  | .distanceChanged .. => "distance_changed"

def toJson (e : Event) : Json :=
  let change : List (String × Json) := match e with
    | .stateChanged _ old new => [("old", .text old.code), ("new", .text new.code)]
    | .distanceChanged _ old new => [("old", .text old.code), ("new", .text new.code)]
    | _ => []
  .object ([("type", .text e.kind), ("address", .text e.address.text)] ++ change)

end Event

inductive NodeMetric where
  | openConnections
  | pendingReconnections
  deriving DecidableEq, Repr

namespace NodeMetric

def name : NodeMetric → String
  | .openConnections => "pool.open-connections"
  | .pendingReconnections => "pool.pending-reconnections"

end NodeMetric

/-- What is written to the metrics of a node. -/
inductive MetricRecord where
  | created (address : Endpoint)
  | gauge (address : Endpoint) (metric : NodeMetric) (value : Nat)
  deriving DecidableEq, Repr

/-- The fields that the cluster reports together. A field that is not reported is cleared. -/
structure NodeInfo where
  broadcastAddress : Option Ip := none
  listenAddress : Option Ip := none
  datacenter : Option String := none
  rack : Option String := none
  version : Option ServerVersion := none
  hostId : Option Uuid := none
  schemaVersion : Option Uuid := none
  tokens : TokenSet := .empty
  extras : List (String × Json) := []

structure Descriptor where
  address : Endpoint
  /-- The metrics that are recorded for this node. -/
  metrics : List NodeMetric := []
  state : NodeState := .unknown
  distance : NodeDistance := .ignored
  info : NodeInfo := {}
  openConnections : Nat := 0
  reconnections : Nat := 0

inductive Change where
  | state (new : NodeState)
  | distance (new : NodeDistance)
  | info (new : NodeInfo)
  | connectionOpened
  | connectionClosed
  | reconnectionStarted
  | reconnectionStopped

/-- What is answered to a change: the value before it, whether it changed the tokens, or the count
that it leads to. -/
inductive ChangeAnswer where
  | state (old : NodeState)
  | distance (old : NodeDistance)
  | tokens (changed : Bool)
  | connections (count : Nat)
  | nothing
  deriving DecidableEq, Repr

namespace Descriptor

def isReconnecting (d : Descriptor) : Bool := 0 < d.reconnections

/-- Whether the tokens change, which are compared with the ones that are there and then stored. -/
def storeInfo (d : Descriptor) (new : NodeInfo) : Bool × Descriptor :=
  let changed := decide (d.info.tokens ≠ new.tokens)
  let tokens := if changed then new.tokens else d.info.tokens
  (changed, { d with info := { new with tokens } })

/-- Counts never go below zero. -/
def update (d : Descriptor) : Change → ChangeAnswer × Descriptor
  | .state new => (.state d.state, { d with state := new })
  | .distance new => (.distance d.distance, { d with distance := new })
  | .info new =>
    let (changed, stored) := d.storeInfo new
    (.tokens changed, stored)
  | .connectionOpened =>
    let count := d.openConnections + 1
    (.connections count, { d with openConnections := count })
  | .connectionClosed =>
    let count := d.openConnections - 1
    (.connections count, { d with openConnections := count })
  | .reconnectionStarted => (.nothing, { d with reconnections := d.reconnections + 1 })
  | .reconnectionStopped => (.nothing, { d with reconnections := d.reconnections - 1 })

def apply (d : Descriptor) (c : Change) : Descriptor := (d.update c).2

/-- Setting a state or a distance is published when it changes something. -/
def events (d : Descriptor) : Change → List Event
  | .state new => if d.state = new then [] else [.stateChanged d.address d.state new]
  | .distance new => if d.distance = new then [] else [.distanceChanged d.address d.distance new]
  | _ => []

def gauge (d : Descriptor) (metric : NodeMetric) (value : Nat) : List MetricRecord :=
  if metric ∈ d.metrics then [.gauge d.address metric value] else []

def records (d : Descriptor) : Change → List MetricRecord
  | .connectionOpened => d.gauge .openConnections (d.openConnections + 1)
  | .connectionClosed => d.gauge .openConnections (d.openConnections - 1)
  | .reconnectionStarted => d.gauge .pendingReconnections (d.reconnections + 1)
  | .reconnectionStopped => d.gauge .pendingReconnections (d.reconnections - 1)
  | _ => []

section
variable (d : Descriptor)

/-- Tokens that are the same need not be stored. -/
theorem storeInfo_eq (new : NodeInfo) :
    d.storeInfo new = (decide (d.info.tokens ≠ new.tokens), { d with info := new }) := by
  by_cases same : d.info.tokens = new.tokens <;> simp [storeInfo, same]

@[simp] theorem apply_state (new : NodeState) : d.apply (.state new) = { d with state := new } :=
  rfl

@[simp] theorem apply_distance (new : NodeDistance) :
    d.apply (.distance new) = { d with distance := new } := rfl

@[simp] theorem apply_info (new : NodeInfo) : d.apply (.info new) = { d with info := new } :=
  congrArg Prod.snd (d.storeInfo_eq new)

@[simp] theorem apply_connectionOpened :
    d.apply .connectionOpened = { d with openConnections := d.openConnections + 1 } := rfl

@[simp] theorem apply_connectionClosed :
    d.apply .connectionClosed = { d with openConnections := d.openConnections - 1 } := rfl

@[simp] theorem apply_reconnectionStarted :
    d.apply .reconnectionStarted = { d with reconnections := d.reconnections + 1 } := rfl

@[simp] theorem apply_reconnectionStopped :
    d.apply .reconnectionStopped = { d with reconnections := d.reconnections - 1 } := rfl

end

@[simp] theorem address_apply (d : Descriptor) (c : Change) : (d.apply c).address = d.address := by
  cases c <;> rfl

@[simp] theorem metrics_apply (d : Descriptor) (c : Change) : (d.apply c).metrics = d.metrics := by
  cases c <;> rfl

def snapshot (d : Descriptor) : Json :=
  .object
    [("connect_address", .text d.address.text),
      ("state", .text d.state.code),
      ("distance", .text d.distance.code),
      ("broadcast_address", .option (fun ip => .text ip.text) d.info.broadcastAddress),
      ("listen_address", .option (fun ip => .text ip.text) d.info.listenAddress),
      ("datacenter", .option .text d.info.datacenter),
      ("rack", .option .text d.info.rack),
      ("version", .option ServerVersion.toJson d.info.version),
      ("host_id", .option (fun u => .text u.text) d.info.hostId),
      ("schema_version", .option (fun u => .text u.text) d.info.schemaVersion),
      ("tokens", .texts d.info.tokens.items),
      ("extras", .object d.info.extras),
      ("open_connections", .nat d.openConnections),
      ("reconnecting", .bool d.isReconnecting)]

def shape (d : Descriptor) : Text.Shape :=
  .record "NodeDescriptor"
    [("connect_address", .word d.address.text), ("state", .word d.state.name),
      ("distance", .word d.distance.name)]
    true

end Descriptor
end ClusterDriver
