import ClusterDriver.Proofs.Cluster.Distances
import ClusterDriver.Proofs.Cluster.QueryPlans
/-!
# Seeding

A table that never had a node is given contact points, and then its nodes their distances. The
addresses among the points become the members, each with the only descriptor for it; requests may go
to all of them, and the builtin policy tries the least one first.
-/
namespace ClusterDriver.NodeTable
variable {t : NodeTable} {a : Endpoint} {points before : List Endpoint} {distance : NodeDistance}

/-- Every descriptor is that of a member: nobody was removed. -/
def Whole (t : NodeTable) : Prop := t.descriptors.map Descriptor.address = t.memberAddresses

theorem Whole.addNode (whole : t.Whole) (address : Endpoint) : (t.addNode address).2.Whole := by
  cases member : t.member? address with
  | some id => rwa [addNode_of_member member]
  | none =>
    have fresh : address ∉ t.members.entries.map Prod.fst := fun among =>
      mem_memberAddresses.1 among member
    have members : (t.addNode address).2.memberAddresses = t.memberAddresses ++ [address] := by
      have inserted : (t.addNode address).2.members =
          t.members.insert address t.descriptors.length := by
        simp [NodeTable.addNode, member]
      rw [memberAddresses, inserted, Table.keys, Table.insert, Table.keys_put, if_neg fresh]
      rfl
    rw [Whole, descriptors_addNode_of_absent member, List.map_append, members, whole]
    rfl

theorem Whole.change (whole : t.Whole) (id : NodeId) (c : Change) : (t.change id c).Whole := by
  have addresses : (t.change id c).descriptors.map Descriptor.address =
      t.descriptors.map Descriptor.address := by
    refine List.ext_getElem? fun i => ?_
    have changed := descriptor_change (t := t) id c i
    rw [List.getElem?_map, List.getElem?_map, ← descriptor?, ← descriptor?, changed]
    split
    · simp [Function.comp_def]
    · rfl
  have members : (t.change id c).memberAddresses = t.memberAddresses := by
    cases known : t.descriptor? id with
    | none => rw [change_of_unknown known]
    | some d => simp [change_of_known known, memberAddresses]
  rw [Whole, addresses, members, whole]

theorem Whole.visit (whole : t.Whole) (policy : BalancingPolicy) (address : Endpoint) :
    (visit policy t address).Whole := by
  cases member : t.member? address with
  | none => simpa [NodeTable.visit, member] using whole
  | some id =>
    cases known : t.descriptor? id with
    | none => simpa [NodeTable.visit, member, assignDistance, known] using whole
    | some d => simpa [NodeTable.visit, member, assignDistance, known] using whole.change id _

theorem Whole.visits (whole : t.Whole) (policy : BalancingPolicy) (addresses : List Endpoint) :
    (addresses.foldl (NodeTable.visit policy) t).Whole := by
  induction addresses generalizing t with
  | nil => exact whole
  | cons address rest ih => exact ih (whole.visit policy address)

theorem standing_addNode (indexed : t.Indexed) (address a : Endpoint) :
    (t.addNode address).2.standing? a =
      if address = a then some ((t.standing? a).getD {}) else t.standing? a := by
  rw [standing?, node_addNode indexed]
  split
  · cases found : t.node? a <;> simp [standing?, found, newcomer, Descriptor.standing]
  · rfl

/-- The builtin policy brings nodes near, and leaves them in their states. -/
theorem standing_visit (indexed : t.Indexed) (address a : Endpoint) :
    (visit .builtin t address).standing? a =
      if address = a then (t.standing? a).map ({ · with distance := .near })
      else t.standing? a := by
  rw [standing?, node_visit indexed]
  split
  · simp [standing?, Option.map_map, Function.comp_def, Descriptor.standing,
      BalancingPolicy.place, BalancingPolicy.builtin]
  · rfl

theorem standing_visits (indexed : t.Indexed) (addresses : List Endpoint) (a : Endpoint) :
    (addresses.foldl (visit .builtin) t).standing? a =
      if a ∈ addresses then (t.standing? a).map ({ · with distance := .near })
      else t.standing? a := by
  induction addresses generalizing t with
  | nil => simp
  | cons address rest ih =>
    rw [List.foldl_cons, ih (indexed.runs (runs_visit .builtin t address)),
      standing_visit indexed]
    by_cases first : address = a
    · subst first
      simp [Option.map_map, Function.comp_def]
    · simp [first, Ne.symm first]

/-- The points are the members, of which nothing is known, and all are at this distance. Nobody
else ever was a member, nor was one of them twice. -/
structure Seeded (points : List Endpoint) (distance : NodeDistance) (t : NodeTable) : Prop where
  indexed : t.Indexed
  whole : t.Whole
  standing : ∀ a, t.standing? a = if a ∈ points then some { distance } else none

theorem seeded_nil (factory : MetricsFactory) :
    Seeded [] distance ({ factory } : NodeTable) where
  indexed := indexed_of_empty rfl
  whole := rfl
  standing _ := rfl

namespace Seeded

/-- What is still to be published does not count. -/
theorem sent (seeded : Seeded points distance t) :
    Seeded points distance { t with outbox := [] } :=
  ⟨seeded.indexed, seeded.whole, seeded.standing⟩

theorem addNode (seeded : Seeded before .ignored t) (address : Endpoint) :
    Seeded (before ++ [address]) .ignored (t.addNode address).2 where
  indexed := seeded.indexed.addNode address
  whole := seeded.whole.addNode address
  standing a := by
    rw [standing_addNode seeded.indexed, seeded.standing a]
    by_cases here : address = a
    · subst here
      by_cases listed : address ∈ before <;> simp [listed]
    · simp [here, Ne.symm here]

theorem addContactPoints (seeded : Seeded before .ignored t) (points : List Endpoint) :
    Seeded (before ++ points) .ignored (t.addContactPoints points).2 := by
  induction points generalizing before t with
  | nil => rwa [List.append_nil]
  | cons address rest ih =>
    rw [List.append_cons]
    exact ih (seeded.addNode address)

theorem member_iff (seeded : Seeded points distance t) : t.member? a ≠ none ↔ a ∈ points := by
  have standing := seeded.standing a
  rw [← seeded.indexed.node_eq_none.ne]
  constructor
  · intro member
    by_contra unlisted
    rw [if_neg unlisted, standing?, Option.map_eq_none_iff] at standing
    exact member standing
  · intro listed absent
    rw [if_pos listed, standing?, absent] at standing
    cases standing

theorem initDistances {order : List Endpoint → List Endpoint} (perm : ∀ l, (order l).Perm l)
    (seeded : Seeded points distance t) : Seeded points .near (t.initDistances .builtin order) := by
  have visits : t.initDistances .builtin order =
      (order t.memberAddresses).foldl (visit .builtin) t := rfl
  refine ⟨seeded.indexed.runs (runs_initDistances _ _ _), ?_, fun a => ?_⟩
  · rw [visits]
    exact seeded.whole.visits .builtin _
  · have listed : a ∈ order t.memberAddresses ↔ a ∈ points :=
      ((perm _).mem_iff.trans mem_memberAddresses).trans seeded.member_iff
    rw [visits, standing_visits seeded.indexed, seeded.standing a]
    by_cases among : a ∈ points <;> simp [listed, among]

/-- Every address has one descriptor, however often it is among the points. -/
theorem addresses (seeded : Seeded points distance t) :
    (t.descriptors.map Descriptor.address).Nodup ∧
      ∀ a, a ∈ t.descriptors.map Descriptor.address ↔ a ∈ points := by
  rw [seeded.whole]
  exact ⟨t.members.nodup_keys, fun a => mem_memberAddresses.trans seeded.member_iff⟩

theorem usable_iff (seeded : Seeded points .near t) :
    (∃ d, t.Usable d ∧ d.address = a) ↔ a ∈ points := by
  rw [exists_usable seeded.indexed, seeded.standing a]
  by_cases listed : a ∈ points <;> simp [listed, Standing.IsUsable]

/-- The first node of the plan is the one with the least address of all points. -/
theorem exists_head (seeded : Seeded points .near t) (nonempty : points ≠ []) :
    ∃ d, (t.queryPlan .builtin).head? = some d ∧ d.address ∈ points ∧
      ∀ a ∈ points, a = d.address ∨ d.address < a := by
  obtain ⟨a, listed⟩ := List.exists_mem_of_ne_nil points nonempty
  cases head : (t.queryPlan .builtin).head? with
  | none =>
    obtain ⟨d, usable, _⟩ := seeded.usable_iff.2 listed
    exact absurd usable ((queryPlan_eq_nil seeded.indexed).1 (List.head?_eq_none_iff.1 head) d)
  | some d =>
    obtain ⟨usable, least⟩ := (head_queryPlan seeded.indexed).1 head
    refine ⟨d, rfl, seeded.usable_iff.1 ⟨d, usable, rfl⟩, fun a listed => ?_⟩
    obtain ⟨e, usable', rfl⟩ := seeded.usable_iff.2 listed
    exact (least e usable').imp_left (congrArg Descriptor.address)

end Seeded
end ClusterDriver.NodeTable
