import ClusterDriver.Proofs.Cluster.Lookup
import ClusterDriver.Proofs.Cluster.NodeStates
/-!
# Distances

A node joins at no distance. From the first row for it or the first round of the policy on, its
distance is the one that the policy finds for the node as it is, through all jobs, as long as the
policy looks at nothing but the address and the info of the node. An operation publishes that a
distance has changed exactly if it changes one.
-/
namespace ClusterDriver

/-- Its distances depend on the address and the info of a node alone. -/
def BalancingPolicy.ByInfo (policy : BalancingPolicy) : Prop :=
  ∀ d e : Descriptor, d.address = e.address → d.info = e.info →
    policy.distance d = policy.distance e

theorem BalancingPolicy.ByInfo.distance_place {policy : BalancingPolicy} (byInfo : policy.ByInfo)
    (d : Descriptor) : (policy.place d).distance = policy.distance (policy.place d) :=
  byInfo d (policy.place d) rfl rfl

namespace MembershipJob

/-- Distances come from this policy, and members are visited once each. -/
def Uses (policy : BalancingPolicy) : MembershipJob → Prop
  | .initDistances other order => other = policy ∧ ∀ l, (order l).Perm l
  | .refreshNode other _ _ => other = policy
  | .refreshAll other _ order _ => other = policy ∧ ∀ l, (order l).Perm l
  | .contactPoints _ | .statusEvent _ _ _ | .forceDown _ | .forceUp _ => True

/-- It gives the node at this address a distance, if that is a member then. -/
def Places (a : Endpoint) : MembershipJob → Prop
  | .initDistances _ _ => True
  | .refreshNode _ translator row => translator.translate row.address = a
  | .refreshAll _ translator _ rows => ∃ row ∈ rows, translator.translate row.address = a
  | .contactPoints _ | .statusEvent _ _ _ | .forceDown _ | .forceUp _ => False

end MembershipJob

namespace Descriptor

theorem length_events_le (d : Descriptor) (c : Change) : (d.events c).length ≤ 1 := by
  cases c with
  | state next => by_cases same : d.state = next <;> simp [events, same]
  | distance next => by_cases same : d.distance = next <;> simp [events, same]
  | info | connectionOpened | connectionClosed | reconnectionStarted | reconnectionStopped =>
    exact Nat.zero_le 1

/-- A change publishes of the distance what it changes of it. -/
theorem distanceChanged_mem_events (d : Descriptor) (c : Change) (a : Endpoint)
    (old new : NodeDistance) : .distanceChanged a old new ∈ d.events c ↔
      old ≠ new ∧ d.address = a ∧ d.distance = old ∧ (d.apply c).distance = new := by
  have unchanged : (d.apply c).distance = d.distance →
      ¬ (old ≠ new ∧ d.address = a ∧ d.distance = old ∧ (d.apply c).distance = new) := by
    rintro same ⟨differ, _, rfl, rfl⟩
    exact differ same.symm
  cases c with
  | distance next =>
    by_cases same : d.distance = next
    · refine iff_of_false (by simp [events, same]) (unchanged same.symm)
    · simp only [events, if_neg same, List.mem_singleton, Event.distanceChanged.injEq]
      constructor
      · rintro ⟨rfl, rfl, rfl⟩
        exact ⟨same, rfl, rfl, rfl⟩
      · rintro ⟨_, rfl, rfl, rfl⟩
        exact ⟨rfl, rfl, rfl⟩
  | state next =>
    refine iff_of_false ?_ (unchanged rfl)
    by_cases same : d.state = next <;> simp [events, same]
  | info | connectionOpened | connectionClosed | reconnectionStarted | reconnectionStopped =>
    exact iff_of_false List.not_mem_nil (unchanged (by simp))

end Descriptor

namespace NodeTable
variable {t t' t₀ : NodeTable} {a : Endpoint} {policy : BalancingPolicy}

/-- The node at the address, if there is one, has a property. -/
def HoldsAt (a : Endpoint) (P : Descriptor → Prop) (t : NodeTable) : Prop :=
  ∀ id d, t.node? a = some (id, d) → P d

/-- The node is where the policy finds it. -/
def Placed (policy : BalancingPolicy) (a : Endpoint) : NodeTable → Prop :=
  HoldsAt a fun d => d.distance = policy.distance d

/-- The node has not got a distance yet. -/
def Unplaced (a : Endpoint) : NodeTable → Prop := HoldsAt a fun d => d.distance = .ignored

theorem HoldsAt.removeAll {P : Descriptor → Prop} (holds : HoldsAt a P t)
    (addresses : List Endpoint) : HoldsAt a P (t.removeAll addresses) := by
  intro id d found
  rw [node_removeAll] at found
  split at found
  · cases found
  · exact holds id d found

/-- What sets nothing but states leaves a property that does not depend on the state. -/
theorem HoldsAt.changeMember {P : Descriptor → Prop} (indexed : t.Indexed)
    {c : Descriptor → Option Change}
    (states : ∀ d change, c d = some change → ∃ s, change = .state s)
    (stateless : ∀ d s, P d → P { d with state := s }) (holds : HoldsAt a P t)
    (address : Endpoint) : HoldsAt a P (t.changeMember address c) := by
  intro id d found
  rw [node_changeMember indexed] at found
  split at found
  · obtain ⟨⟨id', e⟩, old, same⟩ := Option.map_eq_some_iff.1 found
    have before := holds id' e old
    cases hc : c e with
    | none =>
      rw [hc] at same
      cases same
      exact before
    | some change =>
      obtain ⟨s, rfl⟩ := states e change hc
      rw [hc] at same
      cases same
      exact stateless e s before
  · exact holds id d found

/-- A fold leaves the node placed if some step places it and no step displaces it. -/
theorem placed_foldl {ι : Type} {f : NodeTable → ι → NodeTable} (hits : ι → Prop)
    (runs : ∀ t i, Runs t (f t i))
    (places : ∀ t i, Indexed t → hits i ∨ Placed policy a t → Placed policy a (f t i))
    (items : List ι) (indexed : t.Indexed) (placed : (∃ i ∈ items, hits i) ∨ Placed policy a t) :
    Placed policy a (items.foldl f t) := by
  induction items generalizing t with
  | nil => simpa using placed
  | cons i rest ih =>
    refine ih (indexed.runs (runs t i)) ?_
    rcases placed with ⟨j, among, hit⟩ | placed
    · rcases List.mem_cons.1 among with rfl | later
      · exact Or.inr (places t j indexed (Or.inl hit))
      · exact Or.inl ⟨j, later, hit⟩
    · exact Or.inr (places t i indexed (Or.inr placed))

theorem placed_applyRow (byInfo : policy.ByInfo) {row : PeerRow} (indexed : t.Indexed)
    (placed : row.address = a ∨ Placed policy a t) :
    Placed policy a (t.applyRow policy row).2 := by
  intro id d found
  rw [node_applyRow indexed] at found
  split at found
  · cases found
    exact byInfo.distance_place _
  · next other => exact placed.resolve_left other id d found

theorem placed_applyRows (byInfo : policy.ByInfo) (rows : List PeerRow) (indexed : t.Indexed)
    (placed : (∃ row ∈ rows, row.address = a) ∨ Placed policy a t) :
    Placed policy a (t.applyRows policy rows) :=
  placed_foldl (fun row => row.address = a) (fun t row => runs_applyRow policy row t)
    (fun _ _ indexed placed => placed_applyRow byInfo indexed placed) rows indexed placed

/-- One member's part of giving all members their distances. -/
def visit (policy : BalancingPolicy) (t : NodeTable) (address : Endpoint) : NodeTable :=
  match t.member? address with
  | none => t
  | some id => t.assignDistance policy id

theorem runs_visit (policy : BalancingPolicy) (t : NodeTable) (address : Endpoint) :
    t.Runs (visit policy t address) := by
  cases member : t.member? address with
  | none => simpa [visit, member] using .refl
  | some id => simpa [visit, member] using runs_assignDistance policy member

theorem node_visit (indexed : t.Indexed) (policy : BalancingPolicy) (address a : Endpoint) :
    (visit policy t address).node? a =
      if address = a then (t.node? a).map fun n => (n.1, policy.place n.2) else t.node? a := by
  cases member : t.member? address with
  | none =>
    by_cases h : address = a
    · subst h
      simp [visit, member, node_of_absent member]
    · simp [visit, member, h]
  | some id => simpa [visit, member] using node_assignDistance indexed member policy a

theorem placed_visit (byInfo : policy.ByInfo) {address : Endpoint} (indexed : t.Indexed)
    (placed : address = a ∨ Placed policy a t) : Placed policy a (visit policy t address) := by
  intro id d found
  rw [node_visit indexed] at found
  split at found
  · obtain ⟨n, _, same⟩ := Option.map_eq_some_iff.1 found
    cases same
    exact byInfo.distance_place _
  · next other => exact placed.resolve_left other id d found

theorem placed_initDistances (byInfo : policy.ByInfo) {order : List Endpoint → List Endpoint}
    (perm : ∀ l, (order l).Perm l) (indexed : t.Indexed) (a : Endpoint) :
    Placed policy a (t.initDistances policy order) := by
  refine placed_foldl (· = a) (runs_visit policy)
    (fun _ _ indexed placed => placed_visit byInfo indexed placed) _ indexed ?_
  cases member : t.member? a with
  | none =>
    refine Or.inr fun id d found => ?_
    cases (node_of_absent member).symm.trans found
  | some id =>
    have among : a ∈ t.memberAddresses := Table.mem_keys.2 ⟨id, member⟩
    exact Or.inl ⟨a, (perm _).mem_iff.2 among, rfl⟩

theorem node_addContactPoints (addresses : List Endpoint) (indexed : t.Indexed)
    {n : NodeId × Descriptor} (found : t.node? a = some n) :
    (t.addContactPoints addresses).2.node? a = some n := by
  induction addresses generalizing t with
  | nil => exact found
  | cons address rest ih =>
    have kept : (t.addNode address).2.node? a = some n := by
      rw [node_addNode indexed, found]
      split <;> rfl
    exact ih (indexed.addNode address) kept

theorem unplaced_addContactPoints (addresses : List Endpoint) (indexed : t.Indexed)
    (unplaced : Unplaced a t) : Unplaced a (t.addContactPoints addresses).2 := by
  induction addresses generalizing t with
  | nil => exact unplaced
  | cons address rest ih =>
    have unplaced' : Unplaced a (t.addNode address).2 := by
      intro id d found
      rw [node_addNode indexed] at found
      split at found
      · cases old : t.node? a with
        | none =>
          rw [old] at found
          cases found
          rfl
        | some n =>
          rw [old] at found
          cases found
          exact unplaced id d old
      · exact unplaced id d found
    exact ih (indexed.addNode address) unplaced'

theorem placed_changeMember (byInfo : policy.ByInfo) (indexed : t.Indexed)
    {c : Descriptor → Option Change}
    (states : ∀ d change, c d = some change → ∃ s, change = .state s) (address : Endpoint)
    (placed : Placed policy a t) : Placed policy a (t.changeMember address c) := by
  refine HoldsAt.changeMember indexed states (fun d s before => ?_) placed address
  exact before.trans (byInfo d { d with state := s } rfl rfl)

theorem unplaced_changeMember (indexed : t.Indexed) {c : Descriptor → Option Change}
    (states : ∀ d change, c d = some change → ∃ s, change = .state s) (address : Endpoint)
    (unplaced : Unplaced a t) : Unplaced a (t.changeMember address c) :=
  HoldsAt.changeMember indexed states (fun _ _ before => before) unplaced address

/-- A job that sets a state sets nothing else. -/
theorem states_statusEvent (state : NodeState) (d : Descriptor) (change : Change)
    (sets : (if d.state = .forcedDown then none else some (Change.state state)) = some change) :
    ∃ s, change = .state s := by
  split at sets
  · cases sets
  · cases sets
    exact ⟨state, rfl⟩

theorem states_forceUp (d : Descriptor) (change : Change)
    (sets : (if d.state = .forcedDown then some (Change.state .up) else none) = some change) :
    ∃ s, change = .state s := by
  split at sets
  · cases sets
    exact ⟨.up, rfl⟩
  · cases sets

/-- A node is where the policy finds it after a job that gives it a distance, and stays there. -/
theorem placed_apply (byInfo : policy.ByInfo) (indexed : t.Indexed) {job : MembershipJob}
    (uses : job.Uses policy)
    (placed : job.Places a ∨ t.member? a ≠ none ∧ Placed policy a t) :
    Placed policy a (MembershipJob.apply t job) := by
  have already : ∀ {P : Prop}, P ∨ t.member? a ≠ none ∧ Placed policy a t →
      P ∨ Placed policy a t := fun placed => placed.imp_right And.right
  cases job with
  | contactPoints addresses =>
    obtain ⟨member, placed⟩ := placed.resolve_left not_false
    obtain ⟨id, member⟩ := Option.ne_none_iff_exists'.1 member
    obtain ⟨d, known, _⟩ := indexed.exists_node member
    intro id' d' found
    have kept := node_addContactPoints addresses indexed known
    obtain ⟨rfl, rfl⟩ := Prod.mk.injEq .. ▸ Option.some.inj (kept.symm.trans found)
    exact placed id d known
  | initDistances other order =>
    obtain ⟨rfl, perm⟩ := uses
    exact placed_initDistances byInfo perm indexed a
  | refreshNode other translator row =>
    obtain rfl : other = policy := uses
    exact placed_applyRow byInfo indexed (already placed)
  | refreshAll other translator order rows =>
    obtain ⟨rfl, _⟩ := uses
    refine HoldsAt.removeAll (placed_applyRows byInfo _ indexed ((already placed).imp_left ?_)) _
    rintro ⟨row, among, here⟩
    exact ⟨row.translated translator, List.mem_map_of_mem among, here⟩
  | statusEvent translator address state =>
    exact placed_changeMember byInfo indexed (states_statusEvent state) _
      (placed.resolve_left not_false).2
  | forceDown address =>
    exact placed_changeMember byInfo indexed (fun _ _ sets => ⟨_, (Option.some.inj sets).symm⟩) _
      (placed.resolve_left not_false).2
  | forceUp address =>
    exact placed_changeMember byInfo indexed states_forceUp _ (placed.resolve_left not_false).2

theorem unplaced_apply (indexed : t.Indexed) {job : MembershipJob} (elsewhere : ¬ job.Places a)
    (unplaced : Unplaced a t) : Unplaced a (MembershipJob.apply t job) := by
  cases job with
  | contactPoints addresses => exact unplaced_addContactPoints addresses indexed unplaced
  | initDistances other order => exact absurd trivial elsewhere
  | refreshNode other translator row =>
    intro id d found
    have other' : (row.translated translator).address ≠ a := elsewhere
    have kept := node_applyRow indexed other (row.translated translator) a
    rw [if_neg other'] at kept
    exact unplaced id d (kept.symm.trans found)
  | refreshAll other translator order rows =>
    have others : ∀ row ∈ rows.map (·.translated translator), row.address ≠ a := by
      intro translated among
      obtain ⟨row, listed, rfl⟩ := List.mem_map.1 among
      exact fun here => elsewhere ⟨row, listed, here⟩
    refine HoldsAt.removeAll (fun id d found => ?_) _
    exact unplaced id d ((node_applyRows other indexed others).symm.trans found)
  | statusEvent translator address state =>
    exact unplaced_changeMember indexed (states_statusEvent state) _ unplaced
  | forceDown address =>
    exact unplaced_changeMember indexed (fun _ _ sets => ⟨_, (Option.some.inj sets).symm⟩) _
      unplaced
  | forceUp address => exact unplaced_changeMember indexed states_forceUp _ unplaced

theorem Tenure.concat {before since : List MembershipJob} {joining job : MembershipJob}
    (tenure : t₀.Tenure a before joining (since ++ [job])) : t₀.Tenure a before joining since :=
  ⟨tenure.absent, fun done short =>
    tenure.stays done (short.trans (List.prefix_append since [job]))⟩

/-- From the first job on that gives the node a distance, it is where the policy finds it. -/
theorem Tenure.placed (empty : t₀.members = .empty) (byInfo : policy.ByInfo)
    {before since : List MembershipJob} {joining : MembershipJob}
    (tenure : t₀.Tenure a before joining since)
    (uses : ∀ job ∈ joining :: since, job.Uses policy)
    (refreshed : ∃ job ∈ joining :: since, job.Places a) :
    Placed policy a (t₀.after (before ++ joining :: since)) := by
  induction since using List.reverseRecOn with
  | nil =>
    obtain ⟨job, only, places⟩ := refreshed
    obtain rfl := List.mem_singleton.1 only
    rw [after_concat]
    exact placed_apply byInfo (indexed_after empty before) (uses job only) (Or.inl places)
  | append_singleton since job ih =>
    have split : before ++ joining :: (since ++ [job]) = (before ++ joining :: since) ++ [job] := by
      simp
    rw [split, after_concat]
    refine placed_apply byInfo (indexed_after empty _) (uses job (by simp)) ?_
    by_cases places : job.Places a
    · exact Or.inl places
    · obtain ⟨earlier, among, placed⟩ := refreshed
      have among' : earlier ∈ joining :: since := by
        rcases List.mem_append.1 (List.cons_append ▸ among) with among' | last
        · exact among'
        · exact absurd (List.mem_singleton.1 last ▸ placed) places
      refine Or.inr ⟨tenure.stays since (List.prefix_append since [job]), ih tenure.concat ?_ ?_⟩
      · exact fun job among => uses job (List.mem_append_left [_] among)
      · exact ⟨earlier, among', placed⟩

/-- Until then, it has not got a distance. -/
theorem Tenure.unplaced (empty : t₀.members = .empty) {before since : List MembershipJob}
    {joining : MembershipJob} (tenure : t₀.Tenure a before joining since)
    (elsewhere : ∀ job ∈ joining :: since, ¬ job.Places a) :
    Unplaced a (t₀.after (before ++ joining :: since)) := by
  induction since using List.reverseRecOn with
  | nil =>
    rw [after_concat]
    refine unplaced_apply (indexed_after empty before) (elsewhere joining (by simp)) ?_
    intro id d found
    cases (node_of_absent tenure.absent).symm.trans found
  | append_singleton since job ih =>
    have split : before ++ joining :: (since ++ [job]) = (before ++ joining :: since) ++ [job] := by
      simp
    rw [split, after_concat]
    refine unplaced_apply (indexed_after empty _) (elsewhere job (by simp)) ?_
    exact ih tenure.concat fun job among => elsewhere job (List.mem_append_left [_] among)

/-- The distance of a descriptor at this address goes from one to another. -/
def DistanceMoves (t t' : NodeTable) (a : Endpoint) (old new : NodeDistance) : Prop :=
  old ≠ new ∧ ∃ id d d', t.descriptor? id = some d ∧ t'.descriptor? id = some d' ∧
    d.address = a ∧ d.distance = old ∧ d'.distance = new

theorem not_distanceMoves (kept : ∀ id d, t.descriptor? id = some d → t'.descriptor? id = some d)
    (a : Endpoint) (old new : NodeDistance) : ¬ t.DistanceMoves t' a old new := by
  rintro ⟨differ, id, d, d', known, known', _, rfl, rfl⟩
  obtain rfl := Option.some.inj ((kept id d known).symm.trans known')
  exact differ rfl

/-- What one operation publishes of distances is what it changes of them. -/
theorem distanceChanged_step (step : t.Step t') : ∃ published : List Event,
    t'.outbox = t.outbox ++ published ∧ published.length ≤ 1 ∧
    ∀ a old new, .distanceChanged a old new ∈ published ↔ t.DistanceMoves t' a old new := by
  obtain ⟨operation, _, rfl⟩ := step
  cases operation with
  | add address =>
    have kept : ∀ a old new, ¬ t.DistanceMoves (t.addNode address).2 a old new :=
      not_distanceMoves fun _ _ known => descriptor_addNode known address
    cases member : t.member? address with
    | some id =>
      refine ⟨[], by simp [perform, addNode, member], by simp, fun a old new => ?_⟩
      exact iff_of_false List.not_mem_nil (kept a old new)
    | none =>
      refine ⟨[.nodeAdded address], by simp [perform, addNode, member], by simp,
        fun a old new => ?_⟩
      exact iff_of_false (by simp) (kept a old new)
  | remove address =>
    have kept : ∀ a old new, ¬ t.DistanceMoves (t.removeNode address).2 a old new :=
      not_distanceMoves fun id _ known => (descriptor_removeNode address id).trans known
    cases member : t.member? address with
    | none =>
      refine ⟨[], by simp [perform, removeNode, member], by simp, fun a old new => ?_⟩
      exact iff_of_false List.not_mem_nil (kept a old new)
    | some id =>
      refine ⟨[.nodeRemoved address], by simp [perform, removeNode, member], by simp,
        fun a old new => ?_⟩
      exact iff_of_false (by simp) (kept a old new)
  | change id c =>
    cases known : t.descriptor? id with
    | none =>
      have same : t.perform (.change id c) = t := change_of_unknown known c
      rw [same]
      refine ⟨[], by simp, by simp, fun a old new => ?_⟩
      exact iff_of_false List.not_mem_nil (not_distanceMoves (fun _ _ known => known) a old new)
    | some d =>
      refine ⟨d.events c, by simp [perform, change_of_known known], d.length_events_le c,
        fun a old new => (d.distanceChanged_mem_events c a old new).trans ?_⟩
      constructor
      · rintro ⟨differ, here, before, after⟩
        exact ⟨differ, id, d, d.apply c, known, by simp [perform, descriptor_change, known], here,
          before, after⟩
      · rintro ⟨differ, other, e, e', found, found', here, before, after⟩
        rw [perform, descriptor_change, found] at found'
        split at found'
        · next same =>
          subst same
          cases known.symm.trans found
          cases found'
          exact ⟨differ, here, before, after⟩
        · cases found'
          exact absurd (before.symm.trans after) differ

/-- Whatever jobs are run, every member that was given a distance since it joined is where the
policy finds it, all others have not got a distance, and every operation that a job consists of
publishes the changes of distances that it makes and no others. -/
theorem distances_follow_policy (t₀ : NodeTable) (empty : t₀.members = .empty)
    (policy : BalancingPolicy) (byInfo : policy.ByInfo) :
    (∀ jobs a, (t₀.after jobs).member? a ≠ none → ∃ before joining since,
      jobs = before ++ joining :: since ∧ t₀.Tenure a before joining since) ∧
    (∀ a before joining since, t₀.Tenure a before joining since →
      (∀ job ∈ before ++ joining :: since, job.Uses policy) →
      ∃ id d, (t₀.after (before ++ joining :: since)).node? a = some (id, d) ∧
        ((∃ job ∈ joining :: since, job.Places a) → d.distance = policy.distance d) ∧
        ((∀ job ∈ joining :: since, ¬ job.Places a) → d.distance = .ignored)) ∧
    (∀ t job, Runs t (MembershipJob.apply t job)) ∧
    ∀ t t', Step t t' → ∃ published : List Event,
      t'.outbox = t.outbox ++ published ∧ published.length ≤ 1 ∧
      ∀ a old new, .distanceChanged a old new ∈ published ↔ t.DistanceMoves t' a old new := by
  refine ⟨fun jobs a => tenure_of_member empty jobs, ?_, MembershipJob.runs_apply,
    fun t t' => distanceChanged_step⟩
  intro a before joining since tenure uses
  obtain ⟨id, member⟩ := Option.ne_none_iff_exists'.1 (tenure.stays since List.prefix_rfl)
  obtain ⟨d, found, _⟩ := (indexed_after empty _).exists_node member
  refine ⟨id, d, found, fun refreshed => ?_, fun elsewhere => ?_⟩
  · have uses' := fun job among => uses job (List.mem_append_right before among)
    exact tenure.placed empty byInfo uses' refreshed id d found
  · exact tenure.unplaced empty elsewhere id d found

/-- Nodes of one datacenter are near. -/
def regional : BalancingPolicy where
  distance d := if d.info.datacenter = some "here" then .near else .remote
  plan nodes := nodes

/-- Two nodes; the one on port 1 is reported twice, the second time with its datacenter. -/
def census : List PeerRow :=
  [⟨onPort 1, {}⟩, ⟨onPort 3, {}⟩, ⟨onPort 9, { datacenter := some "here" }⟩]

theorem regional_distances :
    let joining : MembershipJob := .refreshAll regional relocating List.reverse census
    let since : List MembershipJob :=
      [.statusEvent relocating (onPort 9) .down, .contactPoints [onPort 2, onPort 1]]
    let t := ({} : NodeTable).after (.contactPoints [onPort 4] :: joining :: since)
    (∃ id d, t.node? (onPort 1) = some (id, d) ∧ d.distance = regional.distance d) ∧
    (∃ id d, t.node? (onPort 2) = some (id, d) ∧ d.distance = .ignored) ∧
    t.outbox =
      [.nodeAdded (onPort 4), .nodeAdded (onPort 1), .distanceChanged (onPort 1) .ignored .remote,
        .nodeAdded (onPort 3), .distanceChanged (onPort 3) .ignored .remote,
        .distanceChanged (onPort 1) .remote .near, .nodeRemoved (onPort 4),
        .stateChanged (onPort 1) .unknown .down, .nodeAdded (onPort 2)] := by
  intro joining since t
  have byInfo : regional.ByInfo := fun d e _ info => by simp [regional, info]
  have follow := (distances_follow_policy {} rfl regional byInfo).2.1
  have reversed : ∀ l : List Endpoint, l.reverse.Perm l := List.reverse_perm
  have everywhere : ∀ done ∈ since.inits,
      (({} : NodeTable).after (.contactPoints [onPort 4] :: joining :: done)).member? (onPort 1) ≠
        none := by decide
  have early : ({} : NodeTable).Tenure (onPort 1) [.contactPoints [onPort 4]] joining since :=
    ⟨by decide, fun done short => everywhere done ((List.mem_inits _ _).2 short)⟩
  have late : ({} : NodeTable).Tenure (onPort 2)
      [.contactPoints [onPort 4], joining, .statusEvent relocating (onPort 9) .down]
      (.contactPoints [onPort 2, onPort 1]) [] := by
    refine ⟨by decide, fun done short => ?_⟩
    obtain rfl := List.prefix_nil.1 short
    decide
  have uses : ∀ job ∈ .contactPoints [onPort 4] :: joining :: since, job.Uses regional := by
    simp [joining, since, MembershipJob.Uses, reversed]
  obtain ⟨id, d, found, placed, _⟩ := follow _ _ _ _ early uses
  obtain ⟨id', d', found', _, unplaced⟩ := follow _ _ _ _ late uses
  refine ⟨⟨id, d, found, placed ⟨joining, by simp, _, List.mem_cons_self, rfl⟩⟩, ?_, by decide⟩
  exact ⟨id', d', found', unplaced (by simp [MembershipJob.Places])⟩

end NodeTable
end ClusterDriver
