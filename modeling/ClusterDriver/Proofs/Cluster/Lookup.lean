import ClusterDriver.Proofs.Cluster.Members
/-!
# Nodes by address

The node at an address is the descriptor of the member there, with its place. What each operation of
the driver makes of the nodes at all addresses, for tables in which every member has a descriptor of
its own.
-/
namespace ClusterDriver

/-- The node at the distance that the policy finds for it. -/
def BalancingPolicy.place (policy : BalancingPolicy) (d : Descriptor) : Descriptor :=
  d.apply (.distance (policy.distance d))

/-- The node as a row leaves it. -/
def PeerRow.fill (policy : BalancingPolicy) (row : PeerRow) (n : NodeId × Descriptor) :
    NodeId × Descriptor :=
  (n.1, policy.place (n.2.apply (.info row.info)))

namespace NodeTable
variable {t : NodeTable} {a address : Endpoint} {id : NodeId} {d : Descriptor}
  {n : NodeId × Descriptor}

/-- The node at an address, with its place. -/
def node? (t : NodeTable) (a : Endpoint) : Option (NodeId × Descriptor) :=
  (t.member? a).bind fun id => (t.descriptor? id).map (id, ·)

/-- The node that joins at an address. -/
def newcomer (t : NodeTable) (a : Endpoint) : NodeId × Descriptor :=
  (t.descriptors.length, { address := a, metrics := t.factory.enabled })

theorem node_eq_some :
    t.node? a = some (id, d) ↔ t.member? a = some id ∧ t.descriptor? id = some d := by
  cases member : t.member? a with
  | none => simp [node?, member]
  | some other =>
    simp only [node?, member, Option.bind_some, Option.map_eq_some_iff, Option.some.injEq]
    constructor
    · rintro ⟨e, known, same⟩
      cases same
      exact ⟨rfl, known⟩
    · rintro ⟨rfl, known⟩
      exact ⟨d, known, rfl⟩

theorem node_of_absent (absent : t.member? a = none) : t.node? a = none := by
  simp [node?, absent]

theorem Indexed.exists_node (indexed : t.Indexed) (member : t.member? a = some id) :
    ∃ d, t.node? a = some (id, d) ∧ d.address = a := by
  obtain ⟨d, known, same⟩ := indexed a id member
  exact ⟨d, node_eq_some.2 ⟨member, known⟩, same⟩

theorem Indexed.node_eq_none (indexed : t.Indexed) : t.node? a = none ↔ t.member? a = none := by
  refine ⟨fun unknown => ?_, node_of_absent⟩
  cases member : t.member? a with
  | none => rfl
  | some id =>
    obtain ⟨d, found, _⟩ := indexed.exists_node member
    cases unknown.symm.trans found

theorem Indexed.node_address (indexed : t.Indexed) (found : t.node? a = some (id, d)) :
    d.address = a := by
  obtain ⟨member, known⟩ := node_eq_some.1 found
  obtain ⟨e, known', same⟩ := indexed a id member
  cases known.symm.trans known'
  exact same

theorem Indexed.addNode (indexed : t.Indexed) (address : Endpoint) :
    (t.addNode address).2.Indexed :=
  indexed.runs (runs_addNode t address)

theorem node_addNode (indexed : t.Indexed) (address a : Endpoint) :
    (t.addNode address).2.node? a =
      if address = a then some ((t.node? a).getD (t.newcomer a)) else t.node? a := by
  cases member : t.member? address with
  | some id =>
    rw [addNode_of_member member]
    by_cases h : address = a
    · subst h
      obtain ⟨d, found, _⟩ := indexed.exists_node member
      simp [found]
    · rw [if_neg h]
  | none =>
    by_cases h : address = a
    · subst h
      rw [if_pos rfl, node_of_absent member, Option.getD_none]
      exact node_eq_some.2
        ⟨by rw [member_addNode_of_absent member, if_pos rfl], descriptor_addNode_new member⟩
    · rw [if_neg h]
      cases found : t.member? a with
      | none =>
        rw [node_of_absent found]
        exact node_of_absent (by rw [member_addNode_of_absent member, if_neg h, found])
      | some id =>
        obtain ⟨d, old, _⟩ := indexed.exists_node found
        rw [old]
        exact node_eq_some.2 ⟨by rw [member_addNode_of_absent member, if_neg h, found],
          descriptor_addNode (node_eq_some.1 old).2 address⟩

theorem node_removeNode (address a : Endpoint) :
    (t.removeNode address).2.node? a = if address = a then none else t.node? a := by
  simp only [node?, member_removeNode, descriptor_removeNode]
  split <;> rfl

theorem node_removeAll (addresses : List Endpoint) (t : NodeTable) (a : Endpoint) :
    (t.removeAll addresses).node? a = if a ∈ addresses then none else t.node? a := by
  induction addresses generalizing t with
  | nil => simp [removeAll]
  | cons address rest ih =>
    have step : t.removeAll (address :: rest) = (t.removeNode address).2.removeAll rest := rfl
    rw [step, ih, node_removeNode]
    by_cases later : a ∈ rest
    · simp [later]
    · simp [later, eq_comm]

/-- A change of the member at one address. -/
theorem node_change (indexed : t.Indexed) (member : t.member? address = some id) (c : Change)
    (a : Endpoint) : (t.change id c).node? a =
      if address = a then (t.node? a).map fun n => (n.1, n.2.apply c) else t.node? a := by
  cases found : t.member? a with
  | none => simp [node?, found]
  | some other =>
    have same : id = other ↔ address = a :=
      ⟨fun h => indexed.address_unique member (h ▸ found),
        fun h => Option.some.inj (member.symm.trans (h ▸ found))⟩
    simp only [node?, member_change, found, Option.bind_some, descriptor_change, same]
    split
    · simp [Option.map_map, Function.comp_def]
    · rfl

theorem node_assignDistance (indexed : t.Indexed) (member : t.member? address = some id)
    (policy : BalancingPolicy) (a : Endpoint) : (t.assignDistance policy id).node? a =
      if address = a then (t.node? a).map fun n => (n.1, policy.place n.2) else t.node? a := by
  obtain ⟨d, found, _⟩ := indexed.exists_node member
  have known := (node_eq_some.1 found).2
  simp only [assignDistance, known, node_change indexed member]
  by_cases h : address = a
  · subst h
    simp [found, BalancingPolicy.place]
  · simp [h]

/-- What a row makes of the node at its address. -/
theorem node_applyRow (indexed : t.Indexed) (policy : BalancingPolicy) (row : PeerRow)
    (a : Endpoint) : (t.applyRow policy row).2.node? a =
      if row.address = a then some (row.fill policy ((t.node? a).getD (t.newcomer a)))
      else t.node? a := by
  let added := (t.addNode row.address).2
  let id := (t.addNode row.address).1
  have member : added.member? row.address = some id := member_addNode t row.address
  have indexed' : added.Indexed := indexed.addNode row.address
  have filled := node_change indexed' member (.info row.info) a
  have indexed'' : (added.change id (.info row.info)).Indexed :=
    indexed'.runs (runs_change_member member _)
  have placed := node_assignDistance indexed'' ((member_change _ _ _ _).trans member) policy a
  have same : (t.applyRow policy row).2 =
      (added.change id (.info row.info)).assignDistance policy id := rfl
  rw [same, placed, filled, node_addNode indexed]
  by_cases h : row.address = a
  · simp [h, PeerRow.fill]
  · simp [h]

/-- Rows leave the nodes at other addresses as they are. -/
theorem node_applyRows (policy : BalancingPolicy) {rows : List PeerRow} (indexed : t.Indexed)
    (others : ∀ row ∈ rows, row.address ≠ a) : (t.applyRows policy rows).node? a = t.node? a := by
  induction rows generalizing t with
  | nil => rfl
  | cons row rest ih =>
    have other : row.address ≠ a := others row List.mem_cons_self
    have kept : (t.applyRow policy row).2.node? a = t.node? a := by
      rw [node_applyRow indexed, if_neg other]
    exact (ih (indexed.runs (runs_applyRow policy row t))
      fun row later => others row (List.mem_cons_of_mem _ later)).trans kept

theorem node_changeMember (indexed : t.Indexed) (c : Descriptor → Option Change)
    (address a : Endpoint) : (t.changeMember address c).node? a =
      if address = a then (t.node? a).map fun n => (n.1, (c n.2).elim n.2 n.2.apply)
      else t.node? a := by
  cases member : t.member? address with
  | none =>
    by_cases h : address = a
    · subst h
      simp [changeMember, member, node_of_absent member]
    · simp [changeMember, member, h]
  | some id =>
    obtain ⟨d, found, _⟩ := indexed.exists_node member
    have known := (node_eq_some.1 found).2
    cases hc : c d with
    | none =>
      by_cases h : address = a
      · subst h
        simp [changeMember, member, known, hc, found]
      · simp [changeMember, member, known, hc, h]
    | some change =>
      simp only [changeMember, member, known, Option.bind_some, hc, node_change indexed member]
      by_cases h : address = a
      · subst h
        simp [found, hc]
      · simp [h]

end NodeTable
end ClusterDriver
