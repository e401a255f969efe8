import ClusterDriver.Cluster.Node
import ClusterDriver.Table
/-!
# Node table

Every descriptor that was ever handed out, with the current membership by address. A removed node
keeps its descriptor, which can still be changed; a node that joins again gets a new one. What the
operations publish and record is collected in the order in which it happened.
-/
namespace ClusterDriver

/-- How the metrics of a new node are set up. -/
structure MetricsFactory where
  enabled : List NodeMetric := []
  /-- Whether the creation itself is recorded. -/
  announces : Bool := false
  deriving DecidableEq, Repr

/-- The place of a descriptor in the order in which they were handed out. -/
abbrev NodeId := Nat

structure NodeTable where
  factory : MetricsFactory := {}
  descriptors : List Descriptor := []
  members : Table Endpoint NodeId := .empty
  outbox : List Event := []
  records : List MetricRecord := []

namespace NodeTable

def descriptor? (t : NodeTable) (id : NodeId) : Option Descriptor := t.descriptors[id]?

def member? (t : NodeTable) (address : Endpoint) : Option NodeId := t.members.get? address

def memberAddresses (t : NodeTable) : List Endpoint := t.members.keys

def memberDescriptors (t : NodeTable) : List Descriptor :=
  t.members.values.filterMap t.descriptor?

/-- The members in the order of their addresses. -/
def sortedMembers (t : NodeTable) : List Descriptor :=
  t.memberDescriptors.mergeSort fun a b => decide (a.address ≤ b.address)

/-- Hands out the member with this address, a new one if there is none. -/
def addNode (t : NodeTable) (address : Endpoint) : NodeId × NodeTable :=
  match t.member? address with
  | some id => (id, t)
  | none =>
    let id := t.descriptors.length
    let created := if t.factory.announces then [MetricRecord.created address] else []
    (id, { t with
      descriptors := t.descriptors ++ [{ address, metrics := t.factory.enabled }]
      members := t.members.insert address id
      outbox := t.outbox ++ [.nodeAdded address]
      records := t.records ++ created })

def removeNode (t : NodeTable) (address : Endpoint) : Option NodeId × NodeTable :=
  match t.member? address with
  | none => (none, t)
  | some id =>
    (some id, { t with
      members := t.members.erase address
      outbox := t.outbox ++ [.nodeRemoved address] })

/-- Applies a change to a descriptor, a member or not, and answers it. -/
def update (t : NodeTable) (id : NodeId) (c : Change) : Option ChangeAnswer × NodeTable :=
  match t.descriptor? id with
  | none => (none, t)
  | some d =>
    let (answer, updated) := d.update c
    (some answer, { t with
      descriptors := t.descriptors.set id updated
      outbox := t.outbox ++ d.events c
      records := t.records ++ d.records c })

def change (t : NodeTable) (id : NodeId) (c : Change) : NodeTable := (t.update id c).2

theorem change_of_unknown {t : NodeTable} {id : NodeId} (unknown : t.descriptor? id = none)
    (c : Change) : t.change id c = t := by
  simp [change, update, unknown]

theorem change_of_known {t : NodeTable} {id : NodeId} {d : Descriptor}
    (known : t.descriptor? id = some d) (c : Change) :
    t.change id c = { t with
      descriptors := t.descriptors.set id (d.apply c)
      outbox := t.outbox ++ d.events c
      records := t.records ++ d.records c } := by
  simp [change, update, known, Descriptor.apply]

def changeMember (t : NodeTable) (address : Endpoint) (c : Descriptor → Option Change) :
    NodeTable :=
  match t.member? address with
  | none => t
  | some id =>
    match (t.descriptor? id).bind c with
    | none => t
    | some c => t.change id c

end NodeTable
end ClusterDriver
