import ClusterDriver.Proofs.Cluster.AddressOrder
import ClusterDriver.Proofs.Cluster.Distances
/-!
# Full refresh

A full refresh makes the translated rows the whole membership. Members that have a row keep their
descriptor and all in it that rows do not report, the others are new. Of several rows with one
address the last counts. What is returned and what is published agree.
-/
namespace ClusterDriver

/-- They agree in all that rows do not report. -/
def Descriptor.Alike (d d' : Descriptor) : Prop :=
  d' = { d with info := d'.info, distance := d'.distance }

theorem Descriptor.Alike.trans {d d' d'' : Descriptor} (first : d.Alike d')
    (second : d'.Alike d'') : d.Alike d'' := by
  rw [Alike] at first second ⊢
  rw [second, first]

def Event.added? : Event → Option Endpoint
  | .nodeAdded a => some a
  | _ => none

namespace NodeTable
variable {t t' t'' : NodeTable} {a : Endpoint} {policy : BalancingPolicy} {rows : List PeerRow}
  {known : List Endpoint}

theorem mem_newAddresses :
    a ∈ newAddresses known rows ↔ a ∉ known ∧ a ∈ rows.map PeerRow.address := by
  induction rows generalizing known with
  | nil => simp [newAddresses]
  | cons row rest ih =>
    rw [newAddresses, List.map_cons, List.mem_cons]
    split
    · next old =>
      rw [ih]
      constructor
      · exact fun ⟨fresh, later⟩ => ⟨fresh, Or.inr later⟩
      · rintro ⟨fresh, rfl | later⟩
        · exact absurd old fresh
        · exact ⟨fresh, later⟩
    · next fresh =>
      rw [List.mem_cons, ih, List.mem_cons, not_or]
      constructor
      · rintro (rfl | ⟨⟨_, fresh'⟩, later⟩)
        · exact ⟨fresh, Or.inl rfl⟩
        · exact ⟨fresh', Or.inr later⟩
      · rintro ⟨fresh', rfl | later⟩
        · exact Or.inl rfl
        · by_cases first : a = row.address
          · exact Or.inl first
          · exact Or.inr ⟨⟨first, fresh'⟩, later⟩

/-- New addresses stand in the order in which they first occur. -/
theorem pairwise_newAddresses (known : List Endpoint) (rows : List PeerRow) :
    (newAddresses known rows).Pairwise fun a b =>
      (rows.map PeerRow.address).idxOf a < (rows.map PeerRow.address).idxOf b := by
  induction rows generalizing known with
  | nil => exact .nil
  | cons row rest ih =>
    have later : ∀ {known' : List Endpoint}, row.address ∈ known' →
        (newAddresses known' rest).Pairwise fun a b =>
          ((row :: rest).map PeerRow.address).idxOf a <
            ((row :: rest).map PeerRow.address).idxOf b := by
      intro known' old
      refine (ih known').imp_of_mem fun {a b} ha hb before => ?_
      have apart : ∀ c ∈ newAddresses known' rest, row.address ≠ c := by
        rintro c hc rfl
        exact (mem_newAddresses.1 hc).1 old
      rw [List.map_cons, List.idxOf_cons_ne _ (apart a ha), List.idxOf_cons_ne _ (apart b hb)]
      exact Nat.succ_lt_succ before
    rw [newAddresses]
    split
    · next old => exact later old
    · refine .cons (fun b hb => ?_) (later List.mem_cons_self)
      have apart : row.address ≠ b := by
        rintro rfl
        exact (mem_newAddresses.1 hb).1 List.mem_cons_self
      rw [List.map_cons, List.idxOf_cons_self, List.idxOf_cons_ne _ apart]
      exact Nat.succ_pos _

/-- New addresses depend on which addresses are known, not on how they are listed. -/
theorem newAddresses_congr {known known' : List Endpoint} (same : ∀ a, a ∈ known ↔ a ∈ known')
    (rows : List PeerRow) : newAddresses known rows = newAddresses known' rows := by
  induction rows generalizing known known' with
  | nil => rfl
  | cons row rest ih =>
    have grown : ∀ a, a ∈ row.address :: known ↔ a ∈ row.address :: known' := by
      simp [same]
    simp only [newAddresses, same row.address]
    split
    · exact ih same
    · rw [ih grown]

/-- Members keep their descriptor and what rows do not report in it, all other nodes are new. -/
structure Retains (t t' : NodeTable) : Prop where
  factory : t'.factory = t.factory
  length_le : t.descriptors.length ≤ t'.descriptors.length
  stays : ∀ a id d, t.node? a = some (id, d) → ∃ d', t'.node? a = some (id, d') ∧ d.Alike d'
  joins : ∀ a id d', t.node? a = none → t'.node? a = some (id, d') →
    t.descriptors.length ≤ id ∧ (t.newcomer a).2.Alike d'

theorem Retains.refl (t : NodeTable) : t.Retains t where
  factory := rfl
  length_le := Nat.le_refl _
  stays _ _ d found := ⟨d, found, rfl⟩
  joins a id d' absent found := by cases absent.symm.trans found

theorem Retains.trans (first : t.Retains t') (second : t'.Retains t'') : t.Retains t'' where
  factory := second.factory.trans first.factory
  length_le := Nat.le_trans first.length_le second.length_le
  stays a id d found := by
    obtain ⟨d', found', alike⟩ := first.stays a id d found
    obtain ⟨d'', found'', alike'⟩ := second.stays a id d' found'
    exact ⟨d'', found'', alike.trans alike'⟩
  joins a id d'' absent found'' := by
    cases found' : t'.node? a with
    | none =>
      obtain ⟨new, alike⟩ := second.joins a id d'' found' found''
      refine ⟨Nat.le_trans first.length_le new, ?_⟩
      simpa [newcomer, first.factory] using alike
    | some n =>
      obtain ⟨id', d'⟩ := n
      obtain ⟨new, alike⟩ := first.joins a id' d' absent found'
      obtain ⟨e, same, alike'⟩ := second.stays a id' d' found'
      cases same.symm.trans found''
      exact ⟨new, alike.trans alike'⟩

/-- Giving a node its distance is one change at most. -/
theorem assignDistance_cases (t : NodeTable) (policy : BalancingPolicy) (id : NodeId) :
    t.assignDistance policy id = t ∨
      ∃ distance, t.assignDistance policy id = t.change id (.distance distance) := by
  cases known : t.descriptor? id with
  | none => exact Or.inl (by simp [assignDistance, known])
  | some d => exact Or.inr ⟨policy.distance d, by simp [assignDistance, known]⟩

@[simp] theorem factory_assignDistance (policy : BalancingPolicy) (id : NodeId) :
    (t.assignDistance policy id).factory = t.factory := by
  rcases assignDistance_cases t policy id with same | ⟨distance, same⟩ <;> simp [same]

@[simp] theorem length_assignDistance (policy : BalancingPolicy) (id : NodeId) :
    (t.assignDistance policy id).descriptors.length = t.descriptors.length := by
  rcases assignDistance_cases t policy id with same | ⟨distance, same⟩ <;> simp [same]

theorem retains_applyRow (indexed : t.Indexed) (policy : BalancingPolicy) (row : PeerRow) :
    t.Retains (t.applyRow policy row).2 where
  factory := by simp [applyRow, factory_addNode]
  length_le := by simpa [applyRow] using length_addNode row.address
  stays a id d found := by
    rw [node_applyRow indexed, found]
    split
    · exact ⟨_, rfl, rfl⟩
    · exact ⟨d, rfl, rfl⟩
  joins a id d' absent found := by
    rw [node_applyRow indexed, absent] at found
    split at found
    · cases found
      exact ⟨Nat.le_refl _, rfl⟩
    · cases found

theorem retains_applyRows (indexed : t.Indexed) (policy : BalancingPolicy) (rows : List PeerRow) :
    t.Retains (t.applyRows policy rows) := by
  induction rows generalizing t with
  | nil => exact .refl t
  | cons row rest ih =>
    have indexed' := indexed.runs (runs_applyRow policy row t)
    exact (retains_applyRow indexed policy row).trans (ih indexed')

/-- The last row with an address. -/
theorem exists_last_row (here : ∃ row ∈ rows, row.address = a) : ∃ before row after,
    rows = before ++ row :: after ∧ row.address = a ∧ ∀ later ∈ after, later.address ≠ a := by
  induction rows with
  | nil => simp at here
  | cons first rest ih =>
    by_cases later : ∃ row ∈ rest, row.address = a
    · obtain ⟨before, row, after, rfl, same, last⟩ := ih later
      exact ⟨first :: before, row, after, rfl, same, last⟩
    · obtain ⟨row, among, same⟩ := here
      rcases List.mem_cons.1 among with rfl | among
      · exact ⟨[], row, rest, rfl, same, fun other among same' => later ⟨other, among, same'⟩⟩
      · exact absurd ⟨row, among, same⟩ later

/-- The last row with an address says what the node there is. -/
theorem node_applyRows_last (indexed : t.Indexed) (policy : BalancingPolicy)
    {before after : List PeerRow} {row : PeerRow}
    (last : ∀ later ∈ after, later.address ≠ row.address) :
    ∃ n, (t.applyRows policy (before ++ row :: after)).node? row.address =
      some (row.fill policy n) := by
  let earlier := t.applyRows policy before
  have indexed' : earlier.Indexed :=
    indexed.runs (runs_foldl (fun t row => runs_applyRow policy row t) before t)
  have split : t.applyRows policy (before ++ row :: after) =
      (earlier.applyRow policy row).2.applyRows policy after := by
    simp [applyRows, earlier]
  have rest := node_applyRows policy (indexed'.runs (runs_applyRow policy row earlier)) last
  rw [node_applyRow indexed', if_pos rfl] at rest
  exact ⟨_, split ▸ rest⟩

/-- It says that a node joined or that the distance of one changed. -/
def IsNews : Event → Prop
  | .nodeAdded _ | .distanceChanged _ _ _ => True
  | _ => False

theorem outbox_assignDistance (t : NodeTable) (policy : BalancingPolicy) (id : NodeId) :
    ∃ moved : List Event, (t.assignDistance policy id).outbox = t.outbox ++ moved ∧
      (∀ e ∈ moved, IsNews e) ∧ moved.filterMap Event.added? = [] := by
  cases known : t.descriptor? id with
  | none => exact ⟨[], by simp [assignDistance, known]⟩
  | some d =>
    refine ⟨d.events (.distance (policy.distance d)), by simp [assignDistance, known, change_of_known known], ?_⟩
    by_cases same : d.distance = policy.distance d
    · simp [Descriptor.events, same]
    · simp [Descriptor.events, same, IsNews, Event.added?]

theorem outbox_applyRow (t : NodeTable) (policy : BalancingPolicy) (row : PeerRow) :
    ∃ news : List Event, (t.applyRow policy row).2.outbox = t.outbox ++ news ∧
      (∀ e ∈ news, IsNews e) ∧ news.filterMap Event.added? =
        if t.member? row.address = none then [row.address] else [] := by
  let id := (t.addNode row.address).1
  let filled := (t.addNode row.address).2.change id (.info row.info)
  obtain ⟨moved, placed, isNews, none⟩ := outbox_assignDistance filled policy id
  have outbox : (t.applyRow policy row).2.outbox = filled.outbox ++ moved := placed
  have same : filled.outbox = (t.addNode row.address).2.outbox := by
    cases known : (t.addNode row.address).2.descriptor? id with
    | none => simp only [filled, change_of_unknown known]
    | some d => simp [filled, change_of_known known, Descriptor.events]
  cases member : t.member? row.address with
  | some other =>
    have old : (t.addNode row.address).2 = t := by rw [addNode_of_member member]
    exact ⟨moved, by rw [outbox, same, old], isNews, by simpa using none⟩
  | none =>
    have added : (t.addNode row.address).2.outbox = t.outbox ++ [.nodeAdded row.address] := by
      simp [addNode, member]
    refine ⟨.nodeAdded row.address :: moved, ?_, List.forall_mem_cons.2 ⟨trivial, isNews⟩, ?_⟩
    · rw [outbox, same, added, ← List.append_cons]
    · simp [Event.added?, none]

/-- The nodes that rows add are published in the order of their first rows. -/
theorem outbox_applyRows (policy : BalancingPolicy) (rows : List PeerRow)
    (members : ∀ a, a ∈ known ↔ t.member? a ≠ none) (indexed : t.Indexed) :
    ∃ news : List Event, (t.applyRows policy rows).outbox = t.outbox ++ news ∧
      (∀ e ∈ news, IsNews e) ∧ news.filterMap Event.added? = newAddresses known rows := by
  induction rows generalizing t known with
  | nil => exact ⟨[], by simp [applyRows, newAddresses]⟩
  | cons row rest ih =>
    obtain ⟨first, outbox, isNews, added⟩ := outbox_applyRow t policy row
    have indexed' := indexed.runs (runs_applyRow policy row t)
    have members' : ∀ a, a ∈ row.address :: known ↔
        (t.applyRow policy row).2.member? a ≠ none := by
      intro a
      rw [ne_eq, ← indexed'.node_eq_none, node_applyRow indexed, List.mem_cons, members, ne_eq,
        ← indexed.node_eq_none]
      by_cases here : row.address = a
      · simp [here]
      · simp [here, Ne.symm here]
    obtain ⟨later, outbox', isNews', added'⟩ := ih members' indexed'
    refine ⟨first ++ later, ?_, List.forall_mem_append.2 ⟨isNews, isNews'⟩, ?_⟩
    · rw [← List.append_assoc, ← outbox]
      exact outbox'
    · rw [List.filterMap_append, added, added', newAddresses]
      by_cases old : row.address ∈ known
      · have listed : ∀ a, a ∈ row.address :: known ↔ a ∈ known := by simp [old]
        rw [if_pos old, if_neg ((members _).1 old), List.nil_append, newAddresses_congr listed]
      · rw [if_neg old, if_pos (not_not.1 (mt (members _).2 old)), List.singleton_append]

theorem outbox_removeAll {addresses : List Endpoint} (nodup : addresses.Nodup)
    (members : ∀ a ∈ addresses, t.member? a ≠ none) :
    (t.removeAll addresses).outbox = t.outbox ++ addresses.map .nodeRemoved := by
  induction addresses generalizing t with
  | nil => simp [removeAll]
  | cons address rest ih =>
    obtain ⟨absent, nodup⟩ := List.nodup_cons.1 nodup
    obtain ⟨id, member⟩ := Option.ne_none_iff_exists'.1 (members address List.mem_cons_self)
    have removed : (t.removeNode address).2.outbox = t.outbox ++ [.nodeRemoved address] := by
      simp [removeNode, member]
    have members' : ∀ a ∈ rest, (t.removeNode address).2.member? a ≠ none := by
      intro a later
      have apart : address ≠ a := by
        rintro rfl
        exact absent later
      rw [member_removeNode, if_neg apart]
      exact members a (List.mem_cons_of_mem _ later)
    have rest' := ih nodup members'
    rw [removed, List.append_assoc] at rest'
    exact rest'

/-- The rows are the whole membership now, and what is returned and published says how. -/
structure Refreshed (policy : BalancingPolicy) (rows : List PeerRow) (t : NodeTable)
    (result : TopologyDiff × NodeTable) : Prop where
  members : ∀ a, result.2.member? a ≠ none ↔ a ∈ rows.map PeerRow.address
  kept : ∀ a id d, a ∈ rows.map PeerRow.address → t.node? a = some (id, d) →
    ∃ d', result.2.node? a = some (id, d') ∧ d'.state = d.state ∧
      d'.openConnections = d.openConnections ∧ d'.reconnections = d.reconnections
  joined : ∀ a id d', t.member? a = none → result.2.node? a = some (id, d') →
    t.descriptor? id = none ∧ d'.state = .unknown ∧ d'.openConnections = 0 ∧ d'.reconnections = 0
  /-- The distance is found while the node has its new info and still the distance from before. -/
  last : ∀ before row after, rows = before ++ row :: after →
    (∀ later ∈ after, later.address ≠ row.address) →
    ∃ id d, result.2.node? row.address = some (id, d) ∧ d.address = row.address ∧
      d.info = row.info ∧ ∃ old, d.distance = policy.distance { d with distance := old }
  added : ∀ a, a ∈ result.1.added ↔ t.member? a = none ∧ a ∈ rows.map PeerRow.address
  added_order : result.1.added.Pairwise fun a b =>
    (rows.map PeerRow.address).idxOf a < (rows.map PeerRow.address).idxOf b
  removed : ∀ a, a ∈ result.1.removed ↔ t.member? a ≠ none ∧ a ∉ rows.map PeerRow.address
  removed_order : result.1.removed.Pairwise (· < ·)
  published : ∃ (news : List Event) (gone : List Endpoint),
    result.2.outbox = t.outbox ++ (news ++ gone.map .nodeRemoved) ∧ (∀ e ∈ news, IsNews e) ∧
    news.filterMap Event.added? = result.1.added ∧
    gone.Perm result.1.removed

/-- The members without a row, in the order in which they are removed. -/
def departing (t : NodeTable) (order : List Endpoint → List Endpoint) (rows : List PeerRow) :
    List Endpoint :=
  (order t.memberAddresses).filter fun a => a ∉ rows.map PeerRow.address

section Refresh
variable {order : List Endpoint → List Endpoint}

theorem mem_departing (perm : ∀ l, (order l).Perm l) :
    a ∈ t.departing order rows ↔ t.member? a ≠ none ∧ a ∉ rows.map PeerRow.address := by
  simp [departing, (perm _).mem_iff, mem_memberAddresses]

theorem nodup_departing (perm : ∀ l, (order l).Perm l) : (t.departing order rows).Nodup :=
  ((perm _).nodup_iff.2 t.members.nodup_keys).filter _

/-- Afterwards there are the nodes that the rows made, and no others. -/
theorem node_refreshAll (indexed : t.Indexed) (policy : BalancingPolicy)
    (perm : ∀ l, (order l).Perm l) (rows : List PeerRow) (a : Endpoint) :
    (t.refreshAll policy order rows).2.node? a =
      if a ∈ rows.map PeerRow.address then (t.applyRows policy rows).node? a else none := by
  have removed : (t.refreshAll policy order rows).2.node? a =
      if a ∈ t.departing order rows then none else (t.applyRows policy rows).node? a :=
    node_removeAll _ _ _
  rw [removed]
  by_cases here : a ∈ rows.map PeerRow.address
  · rw [if_pos here, if_neg fun leaving => ((mem_departing perm).1 leaving).2 here]
  · rw [if_neg here]
    by_cases member : t.member? a = none
    · have others : ∀ row ∈ rows, row.address ≠ a := by
        rintro row among rfl
        exact here (List.mem_map_of_mem among)
      rw [node_applyRows policy indexed others, node_of_absent member, ite_self]
    · rw [if_pos ((mem_departing perm).2 ⟨member, here⟩)]

/-- Additions and distances are published first, then the removals. -/
theorem outbox_refreshAll (indexed : t.Indexed) (policy : BalancingPolicy)
    (perm : ∀ l, (order l).Perm l) (rows : List PeerRow) : ∃ news : List Event,
      (t.refreshAll policy order rows).2.outbox =
        t.outbox ++ (news ++ (t.departing order rows).map .nodeRemoved) ∧
      (∀ e ∈ news, IsNews e) ∧
      news.filterMap Event.added? = newAddresses t.memberAddresses rows := by
  obtain ⟨news, outbox, isNews, added⟩ :=
    outbox_applyRows policy rows (fun _ => mem_memberAddresses) indexed
  refine ⟨news, ?_, isNews, added⟩
  have indexed' : (t.applyRows policy rows).Indexed :=
    indexed.runs (runs_foldl (fun t row => runs_applyRow policy row t) rows t)
  have present : ∀ a ∈ t.departing order rows, (t.applyRows policy rows).member? a ≠ none := by
    intro a leaving
    obtain ⟨id, member⟩ := Option.ne_none_iff_exists'.1 ((mem_departing perm).1 leaving).1
    obtain ⟨d, found, _⟩ := indexed.exists_node member
    obtain ⟨d', found', _⟩ := (retains_applyRows indexed policy rows).stays a id d found
    rw [ne_eq, ← indexed'.node_eq_none, found']
    exact Option.some_ne_none _
  rw [← List.append_assoc, ← outbox]
  exact outbox_removeAll (nodup_departing perm) present

theorem refreshed_refreshAll (indexed : t.Indexed) (policy : BalancingPolicy)
    (perm : ∀ l, (order l).Perm l) (rows : List PeerRow) :
    Refreshed policy rows t (t.refreshAll policy order rows) := by
  have indexed' : (t.refreshAll policy order rows).2.Indexed :=
    indexed.runs (runs_refreshAll policy order rows t)
  have retains := retains_applyRows indexed policy rows
  have node := node_refreshAll indexed policy perm rows
  have last : ∀ before row after, rows = before ++ row :: after →
      (∀ later ∈ after, later.address ≠ row.address) →
      ∃ n, (t.refreshAll policy order rows).2.node? row.address = some (row.fill policy n) := by
    rintro before row after rfl last
    rw [node, if_pos (by simp)]
    exact node_applyRows_last indexed policy last
  constructor
  case members =>
    intro a
    refine indexed'.node_eq_none.not.symm.trans ⟨fun present => ?_, fun here => ?_⟩
    · by_contra elsewhere
      exact present (by rw [node, if_neg elsewhere])
    · obtain ⟨before, row, after, split, rfl, later⟩ := exists_last_row (List.mem_map.1 here)
      obtain ⟨n, found⟩ := last before row after split later
      simp [found]
  case kept =>
    intro a id d here found
    obtain ⟨d', found', alike⟩ := retains.stays a id d found
    rw [alike] at found'
    exact ⟨_, ((node a).trans (if_pos here)).trans found', rfl, rfl, rfl⟩
  case joined =>
    intro a id d' absent found
    rw [node] at found
    split at found
    · obtain ⟨new, alike⟩ := retains.joins a id d' (node_of_absent absent) found
      rw [alike]
      exact ⟨List.getElem?_eq_none new, rfl, rfl, rfl⟩
    · cases found
  case last =>
    intro before row after split later
    obtain ⟨n, found⟩ := last before row after split later
    exact ⟨n.1, _, found, indexed'.node_address found, by simp [BalancingPolicy.place],
      n.2.distance, rfl⟩
  case added =>
    intro a
    rw [← not_not (a := t.member? a = none), ← ne_eq, ← mem_memberAddresses]
    exact mem_newAddresses
  case added_order => exact pairwise_newAddresses _ rows
  case removed => exact fun a => (Endpoint.sort_perm _).mem_iff.trans (mem_departing perm)
  case removed_order => exact Endpoint.pairwise_sort (nodup_departing perm)
  case published =>
    obtain ⟨news, outbox, isNews, added⟩ := outbox_refreshAll indexed policy perm rows
    exact ⟨news, _, outbox, isNews, added, (Endpoint.sort_perm _).symm⟩

end Refresh

/-- A full refresh replaces the membership by the translated rows, in every table that operations
lead to from one without members. -/
theorem refreshAll_replaces {t₀ t : NodeTable} (empty : t₀.members = .empty) (runs : t₀.Runs t)
    (policy : BalancingPolicy) (translator : AddressTranslator)
    (order : List Endpoint → List Endpoint) (perm : ∀ l, (order l).Perm l) (rows : List PeerRow) :
    let translated := rows.map (·.translated translator)
    Refreshed policy translated t (t.refreshAll policy order translated) :=
  refreshed_refreshAll ((indexed_of_empty empty).runs runs) policy perm _

theorem census_replaces :
    let t := (({} : NodeTable).addContactPoints [onPort 4, onPort 1, onPort 2]).2.change 1
      .connectionOpened
    let translated := census.map (·.translated relocating)
    let result := t.refreshAll regional List.reverse translated
    Refreshed regional translated t result ∧
    result.1 = { added := [onPort 3], removed := [onPort 2, onPort 4] } ∧
    (result.2.node? (onPort 1)).map (fun n => (n.1, n.2.openConnections)) = some (1, 1) ∧
    result.2.outbox = t.outbox ++
      [.distanceChanged (onPort 1) .ignored .remote, .nodeAdded (onPort 3),
        .distanceChanged (onPort 3) .ignored .remote, .distanceChanged (onPort 1) .remote .near,
        .nodeRemoved (onPort 2), .nodeRemoved (onPort 4)] := by
  intro t translated result
  have opened : (({} : NodeTable).addContactPoints [onPort 4, onPort 1, onPort 2]).2.Runs t :=
    runs_change fun announced => announced.elim
  have runs : ({} : NodeTable).Runs t := (runs_addContactPoints _ _).trans opened
  have replaced := refreshAll_replaces rfl runs regional relocating List.reverse List.reverse_perm
    census
  have ascending : onPort 2 ≤ onPort 4 := by decide
  have sorted : Endpoint.sort [onPort 2, onPort 4] = [onPort 2, onPort 4] := by
    simp [Endpoint.sort, List.mergeSort, List.MergeSort.Internal.splitInTwo, ascending]
  have diff : result.1 = { added := [onPort 3], removed := Endpoint.sort [onPort 2, onPort 4] } :=
    rfl
  exact ⟨replaced, diff.trans (by rw [sorted]), by decide, by decide⟩

end NodeTable
end ClusterDriver
