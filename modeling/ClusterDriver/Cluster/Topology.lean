import ClusterDriver.Cluster.NodeTable
/-!
# Topology

How reports of the cluster change the node table: rows with what is known of a node, status events,
and the driver's own marks. Every function here is one job on the table. Where a job visits the
members, the order is a parameter.
-/
namespace ClusterDriver

/-- Decides how far a node is and which nodes a request tries, in which order. -/
structure BalancingPolicy where
  distance : Descriptor → NodeDistance
  plan : List Descriptor → List Descriptor

namespace BalancingPolicy

def isUsable (d : Descriptor) : Bool :=
  d.distance ≠ .ignored && (d.state = .up || d.state = .unknown)

/-- Every node is near, and the usable ones are tried in the order in which they are given. -/
def builtin : BalancingPolicy where
  distance _ := .near
  plan nodes := nodes.filter isUsable

end BalancingPolicy

/-- Maps an address that the cluster reports to the one that the driver connects to. -/
structure AddressTranslator where
  translate : Endpoint → Endpoint

def AddressTranslator.passThrough : AddressTranslator := ⟨id⟩

/-- What the cluster reports of one node. -/
structure PeerRow where
  address : Endpoint
  info : NodeInfo

def PeerRow.translated (translator : AddressTranslator) (row : PeerRow) : PeerRow :=
  { row with address := translator.translate row.address }

structure TopologyDiff where
  added : List Endpoint := []
  removed : List Endpoint := []
  deriving DecidableEq, Repr

namespace NodeTable

def addContactPoints (t : NodeTable) : List Endpoint → List NodeId × NodeTable
  | [] => ([], t)
  | address :: rest =>
    let (id, t) := t.addNode address
    let (ids, t) := t.addContactPoints rest
    (id :: ids, t)

/-- Gives a node the distance that the policy finds for it as it is now. -/
def assignDistance (t : NodeTable) (policy : BalancingPolicy) (id : NodeId) : NodeTable :=
  match t.descriptor? id with
  | none => t
  | some d => t.change id (.distance (policy.distance d))

def initDistances (t : NodeTable) (policy : BalancingPolicy)
    (order : List Endpoint → List Endpoint) : NodeTable :=
  (order t.memberAddresses).foldl
    (fun t address => match t.member? address with
      | none => t
      | some id => t.assignDistance policy id)
    t

def queryPlan (t : NodeTable) (policy : BalancingPolicy) : List Descriptor :=
  policy.plan t.sortedMembers

def applyRow (t : NodeTable) (policy : BalancingPolicy) (row : PeerRow) : NodeId × NodeTable :=
  let (id, t) := t.addNode row.address
  (id, (t.change id (.info row.info)).assignDistance policy id)

def applyRows (t : NodeTable) (policy : BalancingPolicy) (rows : List PeerRow) : NodeTable :=
  rows.foldl (fun t row => (t.applyRow policy row).2) t

/-- The addresses of the rows that are not among `known`, each where it first occurs. -/
def newAddresses (known : List Endpoint) : List PeerRow → List Endpoint
  | [] => []
  | row :: rest =>
    if row.address ∈ known then newAddresses known rest
    else row.address :: newAddresses (row.address :: known) rest

def removeAll (t : NodeTable) (addresses : List Endpoint) : NodeTable :=
  addresses.foldl (fun t address => (t.removeNode address).2) t

/-- Makes the rows the whole membership: rows are applied first, then the members that were there
before and have no row are removed. -/
def refreshAll (t : NodeTable) (policy : BalancingPolicy) (order : List Endpoint → List Endpoint)
    (rows : List PeerRow) : TopologyDiff × NodeTable :=
  let before := t.memberAddresses
  let seen := rows.map PeerRow.address
  let gone := (order before).filter fun a => a ∉ seen
  let applied := t.applyRows policy rows
  ({ added := newAddresses before rows, removed := Endpoint.sort gone }, applied.removeAll gone)

/-- A node that the driver forced down ignores what the cluster reports. -/
def statusEvent (t : NodeTable) (address : Endpoint) (state : NodeState) : NodeTable :=
  t.changeMember address fun d => if d.state = .forcedDown then none else some (.state state)

def forceDown (t : NodeTable) (address : Endpoint) : NodeTable :=
  t.changeMember address fun _ => some (.state .forcedDown)

def forceUp (t : NodeTable) (address : Endpoint) : NodeTable :=
  t.changeMember address fun d => if d.state = .forcedDown then some (.state .up) else none

end NodeTable
end ClusterDriver
