import ClusterDriver.Proofs.Cluster.Members
import ClusterDriver.Proofs.GrowingLists
import Mathlib.Data.List.Induction
import Mathlib.Data.List.Nodup
/-!
# Descriptors

A descriptor is what the changes made to it since it was handed out come to, whatever is done to the
membership and to other descriptors meanwhile, one of the same address among them. Nothing is
assumed of the operations: a descriptor may be changed after its node was removed.
-/
namespace ClusterDriver

namespace TokenSet

/-- Token sets with the same tokens are equal. -/
theorem ext {s s' : TokenSet} (same : ∀ token, token ∈ s ↔ token ∈ s') : s = s' := by
  have nodup : ∀ s : TokenSet, s.items.Nodup := fun s => s.ascending.imp String.ne_of_lt
  have perm : s.items.Perm s'.items := (List.perm_ext_iff_of_nodup (nodup s) (nodup s')).2 same
  have items : s.items = s'.items := perm.eq_of_pairwise
    (fun a b _ _ h h' => absurd (String.lt_trans h h') (String.lt_irrefl a)) s.ascending s'.ascending
  cases s
  cases s'
  cases items
  rfl

end TokenSet

namespace Change

/-- What a change makes of the state, whatever the other parts of the descriptor are. -/
def toState (old : NodeState) : Change → NodeState
  | .state new => new
  | _ => old

def toDistance (old : NodeDistance) : Change → NodeDistance
  | .distance new => new
  | _ => old

def toInfo (old : NodeInfo) : Change → NodeInfo
  | .info new => new
  | _ => old

def toConnections (old : Nat) : Change → Nat
  | .connectionOpened => old + 1
  | .connectionClosed => old - 1
  | _ => old

def toReconnections (old : Nat) : Change → Nat
  | .reconnectionStarted => old + 1
  | .reconnectionStopped => old - 1
  | _ => old

end Change

namespace Descriptor

/-- Each part from its default on, by the changes to that part alone. -/
def ofChanges (address : Endpoint) (metrics : List NodeMetric) (changes : List Change) :
    Descriptor where
  address
  metrics
  state := changes.foldl Change.toState .unknown
  distance := changes.foldl Change.toDistance .ignored
  info := changes.foldl Change.toInfo {}
  openConnections := changes.foldl Change.toConnections 0
  reconnections := changes.foldl Change.toReconnections 0

/-- The descriptor after some changes. -/
def applyAll (d : Descriptor) (changes : List Change) : Descriptor := changes.foldl apply d

theorem apply_ofChanges (address : Endpoint) (metrics : List NodeMetric) (changes : List Change)
    (c : Change) :
    (ofChanges address metrics changes).apply c = ofChanges address metrics (changes ++ [c]) := by
  cases c <;> simp [ofChanges, Change.toState, Change.toDistance, Change.toInfo,
    Change.toConnections, Change.toReconnections]

theorem applyAll_ofChanges (address : Endpoint) (metrics : List NodeMetric)
    (before after : List Change) :
    (ofChanges address metrics before).applyAll after =
      ofChanges address metrics (before ++ after) := by
  induction after generalizing before with
  | nil => simp [applyAll]
  | cons c rest ih =>
    have rest' := ih (before ++ [c])
    rw [← apply_ofChanges] at rest'
    simpa [applyAll] using rest'

/-- The answer is of the tokens that were there before. -/
theorem storeInfo_fst_iff (d : Descriptor) (new : NodeInfo) :
    (d.storeInfo new).1 = true ↔ ∃ token, ¬ (token ∈ d.info.tokens ↔ token ∈ new.tokens) := by
  rw [storeInfo_eq, decide_eq_true_iff, ← not_forall]
  exact not_congr ⟨fun h token => h ▸ Iff.rfl, TokenSet.ext⟩

end Descriptor

namespace Operation

/-- The change that it makes to one descriptor. -/
def changeOf? (id : NodeId) : Operation → Option Change
  | .change other c => if other = id then some c else none
  | _ => none

/-- The changes that operations make to one descriptor. -/
def changesOf (id : NodeId) (operations : List Operation) : List Change :=
  operations.filterMap (changeOf? id)

/-- Each addition of the address is followed by a removal of it. -/
def Absent (address : Endpoint) (operations : List Operation) : Prop :=
  ∀ before since, operations = before ++ .add address :: since → .remove address ∈ since

theorem absent_concat {address : Endpoint} {operations : List Operation} {operation : Operation} :
    Absent address (operations ++ [operation]) ↔
      operation = .remove address ∨ operation ≠ .add address ∧ Absent address operations := by
  constructor
  · intro absent
    by_cases removes : operation = .remove address
    · exact Or.inl removes
    · refine Or.inr ⟨?_, fun before since split => ?_⟩
      · rintro rfl
        exact absurd (absent operations [] rfl) List.not_mem_nil
      · have removed := absent before (since ++ [operation]) (by simp [split])
        simpa [Ne.symm removes] using removed
  · intro last before since split
    rcases concat_eq_append_cons_iff.1 split with ⟨-, rfl, -⟩ | ⟨since, rfl, earlier⟩
    · rcases last with removes | ⟨other, -⟩
      · cases removes
      · exact absurd rfl other
    · rcases last with rfl | ⟨-, absent⟩
      · simp
      · exact List.mem_append_left _ (absent before since earlier)

end Operation

namespace NodeTable
variable {t t₀ : NodeTable} {address : Endpoint} {id : NodeId} {d : Descriptor}
  {operation : Operation}

/-- The table after some operations, allowed or not. -/
def performAll (t : NodeTable) (operations : List Operation) : NodeTable :=
  operations.foldl perform t

theorem performAll_append (t : NodeTable) (before after : List Operation) :
    t.performAll (before ++ after) = (t.performAll before).performAll after :=
  List.foldl_append

theorem performAll_concat (t : NodeTable) (operations : List Operation) (operation : Operation) :
    t.performAll (operations ++ [operation]) = (t.performAll operations).perform operation :=
  performAll_append t operations [operation]

theorem Indexed.performAll (indexed : t.Indexed) (operations : List Operation) :
    (t.performAll operations).Indexed := by
  induction operations generalizing t with
  | nil => exact indexed
  | cons operation rest ih => exact ih (indexed.perform operation)

theorem factory_perform (t : NodeTable) (operation : Operation) :
    (t.perform operation).factory = t.factory := by
  cases operation with
  | add address => exact factory_addNode address
  | remove address =>
    cases member : t.member? address <;> simp [perform, removeNode, member]
  | change id c => exact factory_change id c

theorem factory_performAll (t : NodeTable) (operations : List Operation) :
    (t.performAll operations).factory = t.factory := by
  induction operations generalizing t with
  | nil => rfl
  | cons operation rest ih => exact (ih (t.perform operation)).trans (factory_perform t operation)

theorem descriptor_perform (known : t.descriptor? id = some d) (operation : Operation) :
    (t.perform operation).descriptor? id =
      some (d.applyAll (operation.changeOf? id).toList) := by
  cases operation with
  | add address => exact descriptor_addNode known address
  | remove address => exact (descriptor_removeNode address id).trans known
  | change other c =>
    rw [perform, descriptor_change, known]
    by_cases h : other = id
    · simp [Operation.changeOf?, h, Descriptor.applyAll]
    · simp [Operation.changeOf?, h, Descriptor.applyAll]

/-- A descriptor that was handed out follows the changes made to it, and nothing else. -/
theorem descriptor_performAll (known : t.descriptor? id = some d) (operations : List Operation) :
    (t.performAll operations).descriptor? id =
      some (d.applyAll (Operation.changesOf id operations)) := by
  induction operations generalizing t d with
  | nil => exact known
  | cons operation rest ih =>
    have rest' := ih (descriptor_perform known operation)
    cases h : operation.changeOf? id <;>
      simpa [h, Operation.changesOf, performAll, Descriptor.applyAll] using rest'

/-- A descriptor that was not there before is that of a node which has just joined. -/
theorem add_of_descriptor_perform (unknown : t.descriptor? id = none)
    (known : (t.perform operation).descriptor? id = some d) :
    ∃ address, operation = .add address ∧ t.member? address = none ∧
      id = t.descriptors.length ∧ d = { address, metrics := t.factory.enabled } := by
  cases operation with
  | add address =>
    rcases descriptor_addNode_cases known with old | ⟨absent, last, new⟩
    · cases unknown.symm.trans old
    · exact ⟨address, rfl, absent, last, new⟩
  | remove address =>
    cases unknown.symm.trans ((descriptor_removeNode address id).symm.trans known)
  | change other c =>
    rw [perform, descriptor_change, unknown] at known
    split at known <;> cases known

/-- Who is a member is decided by the operations on its address. -/
theorem member_performAll_eq_none (empty : t₀.members = .empty) (operations : List Operation)
    (address : Endpoint) : (t₀.performAll operations).member? address = none ↔
      Operation.Absent address operations := by
  induction operations using List.reverseRecOn with
  | nil => simp [performAll, member?, empty, Operation.Absent]
  | append_singleton operations operation ih =>
    rw [performAll_concat, Operation.absent_concat, ← ih]
    cases operation with
    | add other =>
      by_cases same : other = address
      · simp [perform, same, member_addNode]
      · simp [perform, same, member_addNode_other same]
    | remove other =>
      rw [perform, member_removeNode]
      by_cases same : other = address <;> simp [same]
    | change id c => simp [perform]

/-- It is the descriptor with this place that was handed out when a node joined, and what the
changes to it since then have made of it. -/
def HandedOut (t₀ : NodeTable) (operations : List Operation) (id : NodeId) (d : Descriptor) :
    Prop :=
  ∃ before address since, operations = before ++ .add address :: since ∧
    Operation.Absent address before ∧
    id = (t₀.performAll before).descriptors.length ∧
    d = .ofChanges address t₀.factory.enabled (Operation.changesOf id since)

theorem descriptor_of_handedOut (empty : t₀.members = .empty) {operations : List Operation}
    (handed : t₀.HandedOut operations id d) :
    (t₀.performAll operations).descriptor? id = some d := by
  obtain ⟨before, address, since, rfl, absent, rfl, rfl⟩ := handed
  have new := descriptor_addNode_new ((member_performAll_eq_none empty before address).2 absent)
  rw [factory_performAll] at new
  have now := descriptor_performAll (d := .ofChanges address t₀.factory.enabled []) new since
  rw [Descriptor.applyAll_ofChanges] at now
  rw [performAll_append]
  exact now

theorem handedOut_of_descriptor (empty : t₀.members = .empty) (blank : t₀.descriptors = [])
    (operations : List Operation) (known : (t₀.performAll operations).descriptor? id = some d) :
    t₀.HandedOut operations id d := by
  induction operations using List.reverseRecOn generalizing d with
  | nil => simp [performAll, descriptor?, blank] at known
  | append_singleton operations operation ih =>
    rw [performAll_concat] at known
    cases old : (t₀.performAll operations).descriptor? id with
    | none =>
      obtain ⟨address, rfl, absent, last, rfl⟩ := add_of_descriptor_perform old known
      exact ⟨operations, address, [], rfl, (member_performAll_eq_none empty _ _).1 absent, last,
        by rw [factory_performAll]; rfl⟩
    | some e =>
      obtain ⟨before, address, since, rfl, absent, last, rfl⟩ := ih old
      rw [descriptor_perform old, Descriptor.applyAll_ofChanges] at known
      refine ⟨before, address, since ++ [operation], by simp, absent, last, ?_⟩
      cases h : operation.changeOf? id <;>
        simpa [h, Operation.changesOf] using known.symm

/-- A node that joins has a descriptor of its own, in which nothing is set. -/
structure Joins (t : NodeTable) (address : Endpoint) : Prop where
  fresh : t.descriptor? (t.addNode address).1 = none
  blank : (t.addNode address).2.descriptor? (t.addNode address).1 =
    some (.ofChanges address t.factory.enabled [])
  present : (t.addNode address).2.member? address = some (t.addNode address).1
  others : ∀ a, a ≠ address → (t.addNode address).2.member? a = t.member? a
  kept : ∀ id d, t.descriptor? id = some d → (t.addNode address).2.descriptor? id = some d

theorem joins_of_absent (absent : t.member? address = none) : t.Joins address := by
  have place : (t.addNode address).1 = t.descriptors.length := by simp [addNode, absent]
  constructor
  case fresh => exact place ▸ List.getElem?_eq_none (Nat.le_refl _)
  case blank => exact place ▸ descriptor_addNode_new absent
  case present => exact member_addNode t address
  case others => exact fun a other => member_addNode_other other.symm
  case kept => exact fun id d known => descriptor_addNode known address

/-- A removal hands back the member at the address, if there is one, and takes it out of the
membership. The descriptors stay, and the address can join only with a new one. -/
structure Removes (t : NodeTable) (address : Endpoint) : Prop where
  answer : (t.removeNode address).1 = t.member? address
  gone : (t.removeNode address).2.member? address = none
  others : ∀ a, a ≠ address → (t.removeNode address).2.member? a = t.member? a
  kept : ∀ id, (t.removeNode address).2.descriptor? id = t.descriptor? id
  rejoins : (t.removeNode address).2.Joins address

theorem removes (t : NodeTable) (address : Endpoint) : t.Removes address := by
  have gone : (t.removeNode address).2.member? address = none := by
    rw [member_removeNode, if_pos rfl]
  constructor
  case answer => cases member : t.member? address <;> simp [removeNode, member]
  case gone => exact gone
  case others => exact fun a other => (member_removeNode address a).trans (if_neg other.symm)
  case kept => exact descriptor_removeNode address
  case rejoins => exact joins_of_absent gone

/-- What is done to a table that starts without members leaves exactly the descriptors that were
handed out, each with what its own changes come to, before and after its node was removed. An
address is a member unless each addition of it was followed by a removal. One that is added again
while it is a member gives the descriptor that it has, and a new one otherwise, also after a
removal. Info is answered to change the tokens when some token is in one of the two sets only. -/
theorem descriptors_follow_operations (factory : MetricsFactory) (operations : List Operation) :
    let t₀ : NodeTable := { factory }
    let t := t₀.performAll operations
    (∀ id d, t.descriptor? id = some d ↔ t₀.HandedOut operations id d) ∧
      (∀ id d later, t.descriptor? id = some d →
        (t.performAll later).descriptor? id =
          some (d.applyAll (Operation.changesOf id later))) ∧
      (∀ address, t.member? address = none ↔ Operation.Absent address operations) ∧
      (∀ address id, t.member? address = some id → t.addNode address = (id, t)) ∧
      (∀ address, t.member? address = none → t.Joins address) ∧
      (∀ address, t.Removes address) ∧
      (∀ address id, t.member? address = some id →
        ∃ d, t.descriptor? id = some d ∧ d.address = address) ∧
      ∀ id d new, t.descriptor? id = some d →
        ∃ changed, (t.update id (.info new)).1 = some (.tokens changed) ∧
          (changed = true ↔ ∃ token, ¬ (token ∈ d.info.tokens ↔ token ∈ new.tokens)) := by
  intro t₀ t
  have indexed : t.Indexed := (indexed_of_empty (t := t₀) rfl).performAll operations
  refine ⟨fun id d => ⟨handedOut_of_descriptor rfl rfl operations, descriptor_of_handedOut rfl⟩,
    fun id d later known => descriptor_performAll known later,
    member_performAll_eq_none rfl operations,
    fun address id member => addNode_of_member member,
    fun address absent => joins_of_absent absent, t.removes, indexed, fun id d new known => ?_⟩
  exact ⟨(d.storeInfo new).1, by simp [update, Descriptor.update, known], d.storeInfo_fst_iff new⟩

/-- A node is removed and its address joins again. The two descriptors are changed in turn. -/
theorem rejoined_kept_apart :
    let a : Endpoint := .v4 .loopback 9042
    let t : NodeTable := ({} : NodeTable).performAll
      [.add a, .change 0 (.state .up), .remove a, .change 0 .connectionOpened, .add a,
        .change 1 (.distance .near), .change 0 .reconnectionStarted]
    t.descriptor? 0 =
        some { address := a, state := .up, openConnections := 1, reconnections := 1 } ∧
      t.descriptor? 1 = some { address := a, distance := .near } ∧
      t.member? a = some 1 ∧ t.addNode a = (1, t) ∧
      (t.removeNode a).1 = some 1 ∧ t.descriptor? ((t.removeNode a).2.addNode a).1 = none ∧
      (t.update 1 (.info { tokens := .ofList ["5"] })).1 = some (.tokens true) := by
  intro a t
  obtain ⟨descriptors, -, -, again, -, removes, -, answers⟩ := descriptors_follow_operations {}
    [.add a, .change 0 (.state .up), .remove a, .change 0 .connectionOpened, .add a,
      .change 1 (.distance .near), .change 0 .reconnectionStarted]
  have first := (descriptors 0 _).2 ⟨[], a, _, rfl, by simp [Operation.Absent], rfl, rfl⟩
  have left : Operation.Absent a
      [.add a, .change 0 (.state .up), .remove a, .change 0 .connectionOpened] :=
    ((descriptors_follow_operations {} _).2.2.1 a).1 rfl
  have second := (descriptors 1 _).2 ⟨_, a, _, rfl, left, rfl, rfl⟩
  have member : t.member? a = some 1 := rfl
  obtain ⟨changed, answer, changes⟩ := answers 1 _ { tokens := .ofList ["5"] } second
  have fifth : ¬ ("5" ∈ TokenSet.empty ↔ "5" ∈ TokenSet.ofList ["5"]) := fun same =>
    List.not_mem_nil (same.2 (TokenSet.mem_ofList.2 List.mem_cons_self))
  have fresh : t.descriptor? ((t.removeNode a).2.addNode a).1 = none :=
    ((removes a).kept _).symm.trans (removes a).rejoins.fresh
  refine ⟨first, second, member, again a 1 member, (removes a).answer.trans member, fresh, ?_⟩
  rw [answer, changes.2 ⟨"5", fifth⟩]

end NodeTable
end ClusterDriver
