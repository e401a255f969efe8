import ClusterDriver.Cluster.Topology
import Mathlib.Logic.Relation
/-!
# Operations

What a job does to the node table is a sequence of operations: a node is added or removed, or a
descriptor is changed. A state or a distance may be set of a member only, every other change may be
made to any descriptor. All jobs of the driver keep to this, whatever the policy, the translator and
the order in which members are visited are. The order need not even be one of the members.
-/
namespace ClusterDriver
open Relation

inductive Operation where
  | add (address : Endpoint)
  | remove (address : Endpoint)
  | change (id : NodeId) (change : Change)

/-- It is one of the changes that subscribers are told of. -/
def Change.IsAnnounced : Change → Prop
  | .state _ | .distance _ => True
  | _ => False

namespace NodeTable
variable {t t' t'' : NodeTable} {address : Endpoint} {id : NodeId} {c : Change}

def perform (t : NodeTable) : Operation → NodeTable
  | .add address => (t.addNode address).2
  | .remove address => (t.removeNode address).2
  | .change id c => t.change id c

def Allows (t : NodeTable) : Operation → Prop
  | .add _ | .remove _ => True
  | .change id c => c.IsAnnounced → ∃ address, t.member? address = some id

/-- One operation that is allowed. -/
def Step (t t' : NodeTable) : Prop := ∃ operation, t.Allows operation ∧ t' = t.perform operation

/-- Any number of operations, each of them allowed where it is performed. -/
abbrev Runs : NodeTable → NodeTable → Prop := ReflTransGen Step

theorem runs_addNode (t : NodeTable) (address : Endpoint) : t.Runs (t.addNode address).2 :=
  .single ⟨.add address, trivial, rfl⟩

theorem runs_removeNode (t : NodeTable) (address : Endpoint) : t.Runs (t.removeNode address).2 :=
  .single ⟨.remove address, trivial, rfl⟩

theorem runs_change (allowed : t.Allows (.change id c)) : t.Runs (t.change id c) :=
  .single ⟨.change id c, allowed, rfl⟩

theorem runs_change_member (member : t.member? address = some id) (c : Change) :
    t.Runs (t.change id c) :=
  runs_change fun _ => ⟨address, member⟩

theorem member_addNode (t : NodeTable) (address : Endpoint) :
    (t.addNode address).2.member? address = some (t.addNode address).1 := by
  cases h : t.member? address with
  | some id => simp [addNode, h]
  | none =>
    simp only [addNode, h]
    exact Table.get?_insert_self _ _ _

@[simp] theorem member_change (t : NodeTable) (id : NodeId) (c : Change) (address : Endpoint) :
    (t.change id c).member? address = t.member? address := by
  cases known : t.descriptor? id with
  | none => rw [change_of_unknown known]
  | some d =>
    rw [change_of_known known]
    rfl

theorem runs_foldl {ι : Type} {f : NodeTable → ι → NodeTable} (each : ∀ t i, Runs t (f t i))
    (items : List ι) (t : NodeTable) : t.Runs (items.foldl f t) := by
  induction items generalizing t with
  | nil => exact .refl
  | cons i rest ih => exact (each t i).trans (ih (f t i))

theorem runs_assignDistance (policy : BalancingPolicy) (member : t.member? address = some id) :
    t.Runs (t.assignDistance policy id) := by
  cases h : t.descriptor? id with
  | none => simpa [assignDistance, h] using .refl
  | some d => simpa [assignDistance, h] using runs_change_member member _

theorem runs_addContactPoints (addresses : List Endpoint) (t : NodeTable) :
    t.Runs (t.addContactPoints addresses).2 := by
  induction addresses generalizing t with
  | nil => exact .refl
  | cons address rest ih => exact (runs_addNode t address).trans (ih _)

theorem runs_initDistances (policy : BalancingPolicy) (order : List Endpoint → List Endpoint)
    (t : NodeTable) : t.Runs (t.initDistances policy order) := by
  refine runs_foldl (fun t address => ?_) (order t.memberAddresses) t
  cases h : t.member? address with
  | none => exact .refl
  | some id => exact runs_assignDistance policy h

theorem runs_applyRow (policy : BalancingPolicy) (row : PeerRow) (t : NodeTable) :
    t.Runs (t.applyRow policy row).2 := by
  let added := (t.addNode row.address).2
  let id := (t.addNode row.address).1
  have member : added.member? row.address = some id := member_addNode t row.address
  have filled : added.Runs (added.change id (.info row.info)) :=
    runs_change fun announced => announced.elim
  have placed : (added.change id (.info row.info)).Runs (t.applyRow policy row).2 :=
    runs_assignDistance policy ((member_change _ _ _ _).trans member)
  exact ((runs_addNode t row.address).trans filled).trans placed

theorem runs_refreshAll (policy : BalancingPolicy) (order : List Endpoint → List Endpoint)
    (rows : List PeerRow) (t : NodeTable) : t.Runs (t.refreshAll policy order rows).2 :=
  (runs_foldl (fun t row => runs_applyRow policy row t) rows t).trans
    (runs_foldl runs_removeNode _ _)

theorem runs_changeMember (t : NodeTable) (address : Endpoint) (c : Descriptor → Option Change) :
    t.Runs (t.changeMember address c) := by
  cases hid : t.member? address with
  | none => simpa [changeMember, hid] using .refl
  | some id =>
    cases hc : (t.descriptor? id).bind c with
    | none => simpa [changeMember, hid, hc] using .refl
    | some c' => simpa [changeMember, hid, hc] using runs_change_member hid c'

end NodeTable

/-- What the driver does to the membership, each in one job of the coordination task. -/
inductive MembershipJob where
  | contactPoints (addresses : List Endpoint)
  | initDistances (policy : BalancingPolicy) (order : List Endpoint → List Endpoint)
  | refreshNode (policy : BalancingPolicy) (translator : AddressTranslator) (row : PeerRow)
  | refreshAll (policy : BalancingPolicy) (translator : AddressTranslator)
    (order : List Endpoint → List Endpoint) (rows : List PeerRow)
  | statusEvent (translator : AddressTranslator) (address : Endpoint) (state : NodeState)
  | forceDown (address : Endpoint)
  | forceUp (address : Endpoint)

def MembershipJob.apply (t : NodeTable) : MembershipJob → NodeTable
  | .contactPoints addresses => (t.addContactPoints addresses).2
  | .initDistances policy order => t.initDistances policy order
  | .refreshNode policy translator row => (t.applyRow policy (row.translated translator)).2
  | .refreshAll policy translator order rows =>
    (t.refreshAll policy order (rows.map (·.translated translator))).2
  | .statusEvent translator address state => t.statusEvent (translator.translate address) state
  | .forceDown address => t.forceDown address
  | .forceUp address => t.forceUp address

theorem MembershipJob.runs_apply (t : NodeTable) (job : MembershipJob) :
    t.Runs (MembershipJob.apply t job) := by
  cases job with
  | contactPoints addresses => exact NodeTable.runs_addContactPoints addresses t
  | initDistances policy order => exact NodeTable.runs_initDistances policy order t
  | refreshNode policy translator row => exact NodeTable.runs_applyRow policy _ t
  | refreshAll policy translator order rows => exact NodeTable.runs_refreshAll policy order _ t
  | statusEvent translator address state => exact NodeTable.runs_changeMember t _ _
  | forceDown address => exact NodeTable.runs_changeMember t _ _
  | forceUp address => exact NodeTable.runs_changeMember t _ _

end ClusterDriver
