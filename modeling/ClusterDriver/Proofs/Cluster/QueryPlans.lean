import ClusterDriver.Context.Basic
import ClusterDriver.Proofs.Cluster.AddressOrder
import ClusterDriver.Proofs.Cluster.Descriptors
import ClusterDriver.Proofs.Cluster.Lookup
import ClusterDriver.Proofs.Cluster.Replay
/-!
# Query plans

The builtin policy tries the usable members in the order of their addresses. The plan depends on
who is a member, in which state and at which distance, not on how the members came to be so nor on
the order in which they are visited. The control connection goes to the first of them.
-/
namespace ClusterDriver

theorem Table.get?_of_mem {κ ν : Type} [DecidableEq κ] {t : Table κ ν} {e : κ × ν}
    (among : e ∈ t.entries) : t.get? e.1 = some e.2 := by
  obtain ⟨v, found⟩ := Table.mem_keys.1 (List.mem_map_of_mem (f := Prod.fst) among)
  obtain ⟨e', first, rfl⟩ := Option.map_eq_some_iff.1 found
  have key : e'.1 = e.1 := by simpa using List.find?_some first
  have same : e' = e :=
    List.inj_on_of_nodup_map t.nodup_keys (List.mem_of_find?_eq_some first) among key
  rw [found, same]

/-- In ascending order the first is the least. -/
theorem head_eq_some_iff {α : Type} {f : α → Endpoint} {l : List α}
    (ascends : l.Pairwise fun a b => f a < f b) (a : α) :
    l.head? = some a ↔ a ∈ l ∧ ∀ b ∈ l, b = a ∨ f a < f b := by
  cases l with
  | nil => simp
  | cons first rest =>
    obtain ⟨before, _⟩ := List.pairwise_cons.1 ascends
    rw [List.head?_cons, Option.some.injEq]
    constructor
    · rintro rfl
      exact ⟨.head _, fun b among =>
        (List.mem_cons.1 among).imp id fun later => before b later⟩
    · rintro ⟨among, least⟩
      rcases List.mem_cons.1 among with same | later
      · exact same.symm
      · rcases least first (.head _) with same | less
        · exact same
        · exact absurd less (Endpoint.lt_asymm (before a later))

/-- It says that requests may go there. -/
def Standing.IsUsable (s : Standing) : Prop :=
  s.distance ≠ .ignored ∧ (s.state = .up ∨ s.state = .unknown)

theorem BalancingPolicy.isUsable_iff (d : Descriptor) :
    isUsable d = true ↔ d.standing.IsUsable := by
  simp [isUsable, Standing.IsUsable, Descriptor.standing]

namespace NodeTable
variable {t t' : NodeTable} {d : Descriptor} {a : Endpoint} {s : Standing}

/-- It is the descriptor of a member, and requests may go there. -/
def Usable (t : NodeTable) (d : Descriptor) : Prop :=
  (∃ id, t.node? d.address = some (id, d)) ∧ d.distance ≠ .ignored ∧
    (d.state = .up ∨ d.state = .unknown)

theorem mem_memberDescriptors (indexed : t.Indexed) :
    d ∈ t.memberDescriptors ↔ ∃ id, t.node? d.address = some (id, d) := by
  rw [memberDescriptors, List.mem_filterMap]
  constructor
  · rintro ⟨id, among, known⟩
    obtain ⟨e, here, rfl⟩ := List.mem_map.1 among
    have member : t.member? e.1 = some e.2 := Table.get?_of_mem here
    obtain ⟨d', known', address⟩ := indexed _ _ member
    cases known.symm.trans known'
    exact ⟨e.2, node_eq_some.2 ⟨address ▸ member, known⟩⟩
  · rintro ⟨id, found⟩
    obtain ⟨member, known⟩ := node_eq_some.1 found
    exact ⟨id, Table.mem_values_of_get? member, known⟩

/-- Members are visited with their own addresses. -/
theorem map_address_memberDescriptors (indexed : t.Indexed) :
    t.memberDescriptors.map Descriptor.address = t.memberAddresses := by
  have each : ∀ e ∈ t.members.entries, ∃ d, t.descriptor? e.2 = some d ∧ d.address = e.1 :=
    fun e among => indexed e.1 e.2 (Table.get?_of_mem among)
  simp only [memberDescriptors, memberAddresses, Table.values, Table.keys]
  generalize t.members.entries = entries at each
  induction entries with
  | nil => rfl
  | cons e rest ih =>
    obtain ⟨d, known, address⟩ := each e (.head _)
    have rest' := ih fun e' later => each e' (.tail _ later)
    rw [List.map_cons, List.filterMap_cons_some known, List.map_cons, List.map_cons, rest', address]

/-- The members in the order of their addresses, whatever the order in which they are visited. -/
theorem pairwise_of_visited (indexed : t.Indexed) {visited : List Descriptor}
    (perm : visited.Perm t.memberDescriptors) :
    (visited.mergeSort fun a b => decide (a.address ≤ b.address)).Pairwise
      fun d e => d.address < e.address := by
  refine Endpoint.pairwise_mergeSort Descriptor.address ((perm.map _).nodup_iff.2 ?_)
  rw [map_address_memberDescriptors indexed]
  exact t.members.nodup_keys

theorem sorted_of_visited (indexed : t.Indexed) {visited : List Descriptor}
    (perm : visited.Perm t.memberDescriptors) :
    (visited.mergeSort fun a b => decide (a.address ≤ b.address)) = t.sortedMembers :=
  Endpoint.eq_of_perm (pairwise_of_visited indexed perm) (pairwise_of_visited indexed (.refl _))
    (((List.mergeSort_perm _ _).trans perm).trans (List.mergeSort_perm _ _).symm)

theorem queryPlan_ascends (indexed : t.Indexed) :
    (t.queryPlan .builtin).Pairwise fun d e => d.address < e.address :=
  (pairwise_of_visited indexed (.refl _)).sublist List.filter_sublist

theorem mem_queryPlan (indexed : t.Indexed) : d ∈ t.queryPlan .builtin ↔ t.Usable d := by
  have sorted : d ∈ t.sortedMembers ↔ ∃ id, t.node? d.address = some (id, d) :=
    (List.mergeSort_perm _ _).mem_iff.trans (mem_memberDescriptors indexed)
  have plan : t.queryPlan .builtin = t.sortedMembers.filter BalancingPolicy.isUsable := rfl
  rw [plan, List.mem_filter, sorted, BalancingPolicy.isUsable_iff]
  rfl

theorem head_queryPlan (indexed : t.Indexed) : (t.queryPlan .builtin).head? = some d ↔
    t.Usable d ∧ ∀ e, t.Usable e → e = d ∨ d.address < e.address := by
  simp only [head_eq_some_iff (queryPlan_ascends indexed), mem_queryPlan indexed]

theorem queryPlan_eq_nil (indexed : t.Indexed) :
    t.queryPlan .builtin = [] ↔ ∀ d, ¬ t.Usable d := by
  simp only [List.eq_nil_iff_forall_not_mem, mem_queryPlan indexed]

/-- Who is a member, in which state and at which distance. -/
def standing? (t : NodeTable) (a : Endpoint) : Option Standing :=
  (t.node? a).map fun n => n.2.standing

theorem exists_usable (indexed : t.Indexed) :
    (∃ d, t.Usable d ∧ d.address = a) ↔ ∃ s, t.standing? a = some s ∧ s.IsUsable := by
  constructor
  · rintro ⟨d, ⟨⟨id, found⟩, usable⟩, rfl⟩
    exact ⟨d.standing, by simp [standing?, found], usable⟩
  · rintro ⟨s, found, usable⟩
    obtain ⟨⟨id, d⟩, here, rfl⟩ := Option.map_eq_some_iff.1 found
    have address := indexed.node_address here
    exact ⟨d, ⟨⟨id, address ▸ here⟩, usable⟩, address⟩

theorem queryPlan_congr (indexed : t.Indexed) (indexed' : t'.Indexed)
    (same : ∀ a, t'.standing? a = t.standing? a) :
    (t'.queryPlan .builtin).map Descriptor.address =
      (t.queryPlan .builtin).map Descriptor.address := by
  have ascends : ∀ {t : NodeTable}, t.Indexed →
      ((t.queryPlan .builtin).map Descriptor.address).Pairwise (· < ·) :=
    fun indexed => List.pairwise_map.2 (queryPlan_ascends indexed)
  have nodup : ∀ {t : NodeTable}, t.Indexed →
      ((t.queryPlan .builtin).map Descriptor.address).Nodup := fun indexed =>
    (ascends indexed).imp Endpoint.ne_of_lt
  refine Endpoint.eq_of_perm (f := id) (ascends indexed') (ascends indexed)
    ((List.perm_ext_iff_of_nodup (nodup indexed') (nodup indexed)).2 fun a => ?_)
  simp only [List.mem_map, mem_queryPlan indexed, mem_queryPlan indexed', exists_usable indexed,
    exists_usable indexed', same]

/-- The plan is made of the members and the descriptors alone. -/
theorem queryPlan_of_same (policy : BalancingPolicy) (members : t'.members = t.members)
    (descriptors : t'.descriptors = t.descriptors) : t'.queryPlan policy = t.queryPlan policy := by
  have known : t'.descriptor? = t.descriptor? := by
    funext id
    rw [descriptor?, descriptor?, descriptors]
  simp only [queryPlan, sortedMembers, memberDescriptors, members, known]

end NodeTable

/-- After any operations the builtin plan holds the usable members, each once, in the order of their
addresses. It is the same however the members are visited, and for all histories that lead to the
same members in the same states and at the same distances. The control connection has a channel to
open if there is such a member, and it is to the first. -/
theorem builtin_plan_by_address (factory : MetricsFactory) (operations : List Operation) :
    let t : NodeTable := ({ factory } : NodeTable).performAll operations
    let plan := t.queryPlan .builtin
    (plan.map Descriptor.address).Pairwise Endpoint.Precedes ∧
      (∀ d, d ∈ plan ↔ t.Usable d) ∧
      (∀ visited : List Descriptor, visited.Perm t.memberDescriptors →
        BalancingPolicy.builtin.plan
          (visited.mergeSort fun a b => decide (a.address ≤ b.address)) = plan) ∧
      (∀ (factory' : MetricsFactory) (operations' : List Operation),
        let t' : NodeTable := ({ factory := factory' } : NodeTable).performAll operations'
        (∀ a, t'.standing? a = t.standing? a) →
          (t'.queryPlan .builtin).map Descriptor.address = plan.map Descriptor.address) ∧
      ∀ (c : Context) (control : ControlConnection), control.balancer.policy = .builtin →
        (c.table control.balancer.manager).members = t.members →
        (c.table control.balancer.manager).descriptors = t.descriptors →
        (c.nextChannel control = none ↔ ∀ d, ¬ t.Usable d) ∧
          ∀ settings, c.nextChannel control = some settings ↔
            ∃ d, t.Usable d ∧ (∀ e, t.Usable e → e = d ∨ d.address.Precedes e.address) ∧
              settings.address = d.address ∧
                settings = control.channels.settingsFor d.address := by
  intro t plan
  have indexed : t.Indexed := (NodeTable.indexed_of_empty rfl).performAll operations
  refine ⟨?_, fun d => NodeTable.mem_queryPlan indexed, fun visited perm => ?_, ?_, ?_⟩
  · simp only [← Endpoint.lt_iff_precedes, List.pairwise_map]
    exact NodeTable.queryPlan_ascends indexed
  · rw [NodeTable.sorted_of_visited indexed perm]
    rfl
  · intro factory' operations' t' same
    have indexed' : t'.Indexed := (NodeTable.indexed_of_empty rfl).performAll operations'
    exact NodeTable.queryPlan_congr indexed indexed' same
  · intro c control policy members descriptors
    have channel : c.nextChannel control =
        plan.head?.map fun d => control.channels.settingsFor d.address := by
      rw [Context.nextChannel, Context.queryPlan, policy,
        NodeTable.queryPlan_of_same _ members descriptors]
    rw [channel]
    constructor
    · rw [Option.map_eq_none_iff, List.head?_eq_none_iff, NodeTable.queryPlan_eq_nil indexed]
    · intro settings
      have target : ∀ a : Endpoint, settings.address = a ∧
          settings = control.channels.settingsFor a ↔ control.channels.settingsFor a = settings :=
        fun a => ⟨fun here => here.2.symm, fun here => ⟨here ▸ rfl, here.symm⟩⟩
      simp only [target, Option.map_eq_some_iff, plan, NodeTable.head_queryPlan indexed, and_assoc,
        Endpoint.lt_iff_precedes]

/-- Two nodes for requests join in the descending order of their addresses, then one that is down
and one that is given no distance. -/
def backwards : List Operation :=
  [.add (.v4 ⟨10, 0, 0, 10⟩ 9042), .change 0 (.distance .near), .add (.v4 ⟨10, 0, 0, 9⟩ 9042),
    .change 1 (.distance .remote), .change 1 (.state .up), .add (.v4 ⟨10, 0, 0, 1⟩ 9042),
    .change 2 (.distance .near), .change 2 (.state .down), .add (.v4 ⟨10, 0, 0, 2⟩ 9042)]

def joinedBackwards : NodeTable := ({} : NodeTable).performAll backwards

theorem usable_joinedBackwards (d : Descriptor) : joinedBackwards.Usable d ↔
    d = { address := .v4 ⟨10, 0, 0, 9⟩ 9042, distance := .remote, state := .up } ∨
      d = { address := .v4 ⟨10, 0, 0, 10⟩ 9042, distance := .near } := by
  have indexed : joinedBackwards.Indexed := (NodeTable.indexed_of_empty rfl).performAll backwards
  have members : joinedBackwards.memberDescriptors =
      [{ address := .v4 ⟨10, 0, 0, 10⟩ 9042, distance := .near },
        { address := .v4 ⟨10, 0, 0, 9⟩ 9042, distance := .remote, state := .up },
        { address := .v4 ⟨10, 0, 0, 1⟩ 9042, distance := .near, state := .down },
        { address := .v4 ⟨10, 0, 0, 2⟩ 9042 }] := rfl
  rw [NodeTable.Usable, ← NodeTable.mem_memberDescriptors indexed, members]
  constructor
  · rintro ⟨among, placed, reported⟩
    simp only [List.mem_cons, List.not_mem_nil, or_false] at among
    rcases among with rfl | rfl | rfl | rfl
    · exact Or.inr rfl
    · exact Or.inl rfl
    · simp at reported
    · exact absurd rfl placed
  · rintro (rfl | rfl) <;> simp

/-- A driver that has these members. -/
def seeking : Context := (Context.ofSettings .empty).withState
  { managers := [{ coordination := { task := { state := { table := joinedBackwards } } }, bus := 0 }] }

def seeker : ControlConnection where
  channels := {
    frameCodec := ⟨.none, 1024⟩, versions := {}, coalescer := {}, ssl := none, auth := none
    transport := ⟨.ofSeconds 5, true, 1024⟩ }
  reconnection := .constant (.ofSeconds 1)
  balancer := ⟨.builtin, 0⟩

/-- Addresses are compared by their numbers, not by their texts. -/
theorem nine_before_ten :
    (joinedBackwards.queryPlan .builtin).map Descriptor.address =
        [.v4 ⟨10, 0, 0, 9⟩ 9042, .v4 ⟨10, 0, 0, 10⟩ 9042] ∧
      (seeking.nextChannel seeker).map ChannelSettings.address =
        some (.v4 ⟨10, 0, 0, 9⟩ 9042) := by
  obtain ⟨precede, among, -, -, channel⟩ := builtin_plan_by_address {} backwards
  have nine := (usable_joinedBackwards _).2 (Or.inl rfl)
  have ten := (usable_joinedBackwards _).2 (Or.inr rfl)
  have less : (Endpoint.v4 ⟨10, 0, 0, 9⟩ 9042) < .v4 ⟨10, 0, 0, 10⟩ 9042 := by decide
  constructor
  · have ascends := precede.imp fun {a b} => (Endpoint.lt_iff_precedes a b).2
    have ascends' : [Endpoint.v4 ⟨10, 0, 0, 9⟩ 9042, .v4 ⟨10, 0, 0, 10⟩ 9042].Pairwise (· < ·) :=
      List.pairwise_pair.2 less
    refine Endpoint.eq_of_perm (f := id) ascends ascends'
      ((List.perm_ext_iff_of_nodup (ascends.imp Endpoint.ne_of_lt)
        (ascends'.imp Endpoint.ne_of_lt)).2 fun a => ?_)
    simp only [List.mem_map, List.mem_cons, List.not_mem_nil, or_false]
    constructor
    · rintro ⟨d, planned, rfl⟩
      exact ((usable_joinedBackwards d).1 ((among d).1 planned)).imp (congrArg Descriptor.address)
        (congrArg Descriptor.address)
    · rintro (rfl | rfl)
      · exact ⟨_, (among _).2 nine, rfl⟩
      · exact ⟨_, (among _).2 ten, rfl⟩
  · have least : ∀ e, joinedBackwards.Usable e →
        e = { address := .v4 ⟨10, 0, 0, 9⟩ 9042, distance := .remote, state := .up } ∨
          (Endpoint.v4 ⟨10, 0, 0, 9⟩ 9042).Precedes e.address := by
      intro e usable
      rcases (usable_joinedBackwards e).1 usable with here | rfl
      · exact Or.inl here
      · exact Or.inr ((Endpoint.lt_iff_precedes _ _).1 less)
    have first := ((channel seeking seeker rfl rfl rfl).2 _).2 ⟨_, nine, least, rfl, rfl⟩
    rw [first]
    rfl

end ClusterDriver
