import ClusterDriver.Proofs.Cluster.Members
import ClusterDriver.Proofs.GrowingLists
/-!
# Replay

Someone who has received every event keeps a replica of the membership: who is a member, in which
state and at which distance. The replica is exact after every operation, and every event fits the
replica that it meets: it adds an absent node, removes a present one, or changes what the replica
has to something else.
-/
namespace ClusterDriver
open Relation

/-- What events say of a member. A node joins in the state and at the distance given here. -/
structure Standing where
  state : NodeState := .unknown
  distance : NodeDistance := .ignored
  deriving DecidableEq, Repr

def Descriptor.standing (d : Descriptor) : Standing := ⟨d.state, d.distance⟩

abbrev Replica := Table Endpoint Standing

namespace Replica

def amend (r : Replica) (address : Endpoint) (f : Standing → Standing) : Replica :=
  match r.get? address with
  | none => r
  | some s => r.insert address (f s)

def receive (r : Replica) : Event → Replica
  | .nodeAdded address => r.insert address {}
  | .nodeRemoved address => r.erase address
  | .stateChanged address _ new => r.amend address fun s => { s with state := new }
  | .distanceChanged address _ new => r.amend address fun s => { s with distance := new }

def replay (events : List Event) : Replica := events.foldl receive .empty

/-- The event is news for this replica, and right about what it changes. -/
def Fits (r : Replica) : Event → Prop
  | .nodeAdded address => r.get? address = none
  | .nodeRemoved address => ∃ s, r.get? address = some s
  | .stateChanged address old new => old ≠ new ∧ ∃ s, r.get? address = some s ∧ s.state = old
  | .distanceChanged address old new => old ≠ new ∧ ∃ s, r.get? address = some s ∧ s.distance = old

/-- Every event fits what the events before it lead to. -/
def Coherent (events : List Event) : Prop :=
  ∀ before e after, events = before ++ e :: after → (replay before).Fits e

theorem replay_concat (sent held : List Event) (e : Event) :
    replay (sent ++ (held ++ [e])) = (replay (sent ++ held)).receive e := by
  simp [replay]

theorem coherent_nil : Coherent [] := by
  intro before e after h
  simp at h

theorem Coherent.concat {sent held : List Event} {e : Event} (coherent : Coherent (sent ++ held))
    (fits : (replay (sent ++ held)).Fits e) : Coherent (sent ++ (held ++ [e])) := by
  intro before e' after split
  rw [← List.append_assoc] at split
  rcases concat_eq_append_cons_iff.1 split with ⟨rfl, rfl, -⟩ | ⟨rest, -, earlier⟩
  · exact fits
  · exact coherent before e' rest earlier

theorem get?_amend {r : Replica} {address : Endpoint} {s : Standing}
    (found : r.get? address = some s) (f : Standing → Standing) (a : Endpoint) :
    (r.amend address f).get? a = if address = a then some (f s) else r.get? a := by
  simp only [amend, found]
  exact Table.get?_insert r address a (f s)

end Replica

namespace Descriptor
variable {d : Descriptor} {c : Change} {r : Replica}

theorem events_of_not_announced (h : ¬ c.IsAnnounced) : d.events c = [] := by
  cases c with
  | state | distance => exact absurd trivial h
  | info | connectionOpened | connectionClosed | reconnectionStarted | reconnectionStopped => rfl

theorem standing_of_not_announced (h : ¬ c.IsAnnounced) : (d.apply c).standing = d.standing := by
  cases c with
  | state | distance => exact absurd trivial h
  | info | connectionOpened | connectionClosed | reconnectionStarted | reconnectionStopped =>
    simp [standing]

/-- A change publishes nothing, which leaves the standing as it was, or one event, which fits and
takes a replica that has the descriptor right to one that has it right afterwards. -/
theorem events_cases (known : r.get? d.address = some d.standing) (c : Change) :
    d.events c = [] ∧ (d.apply c).standing = d.standing ∨
    ∃ e, d.events c = [e] ∧ r.Fits e ∧
      ∀ a, (r.receive e).get? a = if d.address = a then some (d.apply c).standing else r.get? a := by
  cases c with
  | state new =>
    by_cases same : d.state = new
    · exact Or.inl ⟨if_pos same, by simp [standing, same]⟩
    · refine Or.inr ⟨_, if_neg same, ⟨same, d.standing, known, rfl⟩, ?_⟩
      exact fun a => Replica.get?_amend known _ a
  | distance new =>
    by_cases same : d.distance = new
    · exact Or.inl ⟨if_pos same, by simp [standing, same]⟩
    · refine Or.inr ⟨_, if_neg same, ⟨same, d.standing, known, rfl⟩, ?_⟩
      exact fun a => Replica.get?_amend known _ a
  | info | connectionOpened | connectionClosed | reconnectionStarted | reconnectionStopped =>
    exact Or.inl ⟨rfl, by simp [standing]⟩

end Descriptor

namespace NodeTable
variable {t t' t₀ : NodeTable} {sent : List Event}

/-- The events published so far, those sent and then those that the table still holds, lead to the
members as they are. -/
structure Faithful (sent : List Event) (t : NodeTable) : Prop where
  member : ∀ a id, t.member? a = some id → ∃ d, t.descriptor? id = some d ∧ d.address = a ∧
    (Replica.replay (sent ++ t.outbox)).get? a = some d.standing
  absent : ∀ a, t.member? a = none → (Replica.replay (sent ++ t.outbox)).get? a = none
  coherent : Replica.Coherent (sent ++ t.outbox)

theorem faithful_of_empty (empty : t.members = .empty) (silent : t.outbox = []) :
    t.Faithful [] where
  member a id found := by simp [member?, empty] at found
  absent a _ := by simp [silent, Replica.replay]
  coherent := by
    rw [silent]
    exact Replica.coherent_nil

theorem Faithful.addNode (faithful : t.Faithful sent) (address : Endpoint) :
    (t.addNode address).2.Faithful sent := by
  cases absent : t.member? address with
  | some id => simpa [NodeTable.addNode, absent] using faithful
  | none =>
    have unknown := faithful.absent address absent
    simp only [NodeTable.addNode, absent]
    constructor
    · intro a id found
      simp only [member?, Table.get?_insert] at found
      simp only [descriptor?, Replica.replay_concat, Replica.receive, Table.get?_insert]
      by_cases ha : address = a
      · subst ha
        obtain rfl : t.descriptors.length = id := by simpa using found
        exact ⟨{ address, metrics := t.factory.enabled }, by simp, rfl, by simp [Descriptor.standing]⟩
      · simp only [ha, if_false] at found ⊢
        obtain ⟨d, known, same, replica⟩ := faithful.member a id found
        refine ⟨d, ?_, same, replica⟩
        rw [List.getElem?_append_left (descriptor_lt known)]
        exact known
    · intro a found
      simp only [member?, Table.get?_insert] at found
      simp only [Replica.replay_concat, Replica.receive, Table.get?_insert]
      by_cases ha : address = a
      · simp [ha] at found
      · simp only [ha, if_false] at found ⊢
        exact faithful.absent a found
    · exact faithful.coherent.concat unknown

theorem Faithful.removeNode (faithful : t.Faithful sent) (address : Endpoint) :
    (t.removeNode address).2.Faithful sent := by
  cases present : t.member? address with
  | none => simpa [NodeTable.removeNode, present] using faithful
  | some removed =>
    obtain ⟨d, _, _, replica⟩ := faithful.member address removed present
    simp only [NodeTable.removeNode, present]
    constructor
    · intro a id found
      simp only [member?, Table.get?_erase] at found
      simp only [Replica.replay_concat, Replica.receive, Table.get?_erase]
      by_cases ha : address = a
      · simp [ha] at found
      · simp only [ha, if_false] at found ⊢
        exact faithful.member a id found
    · intro a found
      simp only [member?, Table.get?_erase] at found
      simp only [Replica.replay_concat, Replica.receive, Table.get?_erase]
      by_cases ha : address = a
      · simp [ha]
      · simp only [ha, if_false] at found ⊢
        exact faithful.absent a found
    · exact faithful.coherent.concat ⟨d.standing, replica⟩

theorem descriptor_set {id : NodeId} {d d' : Descriptor} (known : t.descriptor? id = some d)
    (other : NodeId) :
    (t.descriptors.set id d')[other]? = if id = other then some d' else t.descriptor? other := by
  rw [List.getElem?_set]
  split
  · rw [if_pos (descriptor_lt known)]
  · rfl

/-- A change that keeps the standing and publishes nothing. -/
theorem Faithful.of_quiet_change (faithful : t.Faithful sent) {id : NodeId} {d d' : Descriptor}
    (known : t.descriptor? id = some d) (address : d'.address = d.address)
    (standing : d'.standing = d.standing) (members : t'.members = t.members)
    (descriptors : t'.descriptors = t.descriptors.set id d') (outbox : t'.outbox = t.outbox) :
    t'.Faithful sent where
  member a other found := by
    simp only [member?, members] at found
    obtain ⟨e, he, same, replica⟩ := faithful.member a other found
    rw [descriptor?, descriptors, descriptor_set known, outbox]
    by_cases hid : id = other
    · subst hid
      obtain rfl := Option.some.inj (known.symm.trans he)
      exact ⟨d', if_pos rfl, address.trans same, replica.trans (by rw [standing])⟩
    · exact ⟨e, (if_neg hid).trans he, same, replica⟩
  absent a found := by
    simp only [member?, members] at found
    rw [outbox]
    exact faithful.absent a found
  coherent := outbox ▸ faithful.coherent

theorem Faithful.change (faithful : t.Faithful sent) {id : NodeId} {c : Change}
    (allowed : t.Allows (.change id c)) : (t.change id c).Faithful sent := by
  cases known : t.descriptor? id with
  | none => rwa [change_of_unknown known]
  | some d =>
    rw [change_of_known known]
    by_cases announced : c.IsAnnounced
    · obtain ⟨address, present⟩ := allowed announced
      obtain ⟨e, he, rfl, replica⟩ := faithful.member address id present
      obtain rfl := Option.some.inj (known.symm.trans he)
      rcases d.events_cases replica c with ⟨silent, standing⟩ | ⟨e, one, fits, received⟩
      · exact faithful.of_quiet_change known (d.address_apply c) standing rfl rfl (by simp [silent])
      · rw [one]
        constructor
        · intro a other found
          obtain ⟨e, he, same, replica'⟩ := faithful.member a other found
          simp only [descriptor?, descriptor_set known, Replica.replay_concat, received]
          by_cases hid : id = other
          · subst hid
            obtain rfl := Option.some.inj (known.symm.trans he)
            exact ⟨d.apply c, if_pos rfl, (d.address_apply c).trans same, if_pos same⟩
          · have ha : d.address ≠ a := by
              rintro rfl
              exact hid (Option.some.inj (present.symm.trans found))
            exact ⟨e, (if_neg hid).trans he, same, (if_neg ha).trans replica'⟩
        · intro a found
          have ha : d.address ≠ a := by
            rintro rfl
            cases found.symm.trans present
          simp only [Replica.replay_concat, received, ha, if_false]
          exact faithful.absent a found
        · exact faithful.coherent.concat fits
    · exact faithful.of_quiet_change known (d.address_apply c)
        (Descriptor.standing_of_not_announced announced) rfl rfl
        (by simp [Descriptor.events_of_not_announced announced])

theorem Faithful.step (faithful : t.Faithful sent) (step : t.Step t') : t'.Faithful sent := by
  obtain ⟨operation, allowed, rfl⟩ := step
  cases operation with
  | add address => exact faithful.addNode address
  | remove address => exact faithful.removeNode address
  | change id c => exact faithful.change allowed

theorem Faithful.send (faithful : t.Faithful sent) :
    ({ t with outbox := [] } : NodeTable).Faithful (sent ++ t.outbox) where
  member a id found := by
    rw [List.append_nil]
    exact faithful.member a id found
  absent a found := by
    rw [List.append_nil]
    exact faithful.absent a found
  coherent := by
    rw [List.append_nil]
    exact faithful.coherent

/-- What a table comes to by operations, and the events that were sent to the bus meanwhile. -/
inductive Reaches (t₀ : NodeTable) : List Event → NodeTable → Prop
  | start : Reaches t₀ [] t₀
  | operate {sent : List Event} {t t' : NodeTable} (reaches : Reaches t₀ sent t)
    (step : t.Step t') : Reaches t₀ sent t'
  | send {sent : List Event} {t : NodeTable} (reaches : Reaches t₀ sent t) :
    Reaches t₀ (sent ++ t.outbox) { t with outbox := [] }

theorem Reaches.runs (reaches : t₀.Reaches sent t) (runs : t.Runs t') : t₀.Reaches sent t' := by
  induction runs with
  | refl => exact reaches
  | tail _ step ih => exact ih.operate step

theorem Reaches.faithful (reaches : t₀.Reaches sent t) (start : t₀.Faithful []) :
    t.Faithful sent := by
  induction reaches with
  | start => exact start
  | operate _ step ih => exact ih.step step
  | send _ ih => exact ih.send

/-- The events determine the members. After every operation, replaying what was published so far
gives the members with their state and distance, and every event was news when it was published,
whenever the events are sent off. All that the driver does to the membership consists of such
operations. -/
theorem events_determine_members (t₀ : NodeTable) (empty : t₀.members = .empty)
    (silent : t₀.outbox = []) :
    (∀ sent t, t₀.Reaches sent t → t.Faithful sent) ∧
    ∀ sent t, t₀.Reaches sent t → ∀ jobs : List MembershipJob,
      t₀.Reaches sent (jobs.foldl MembershipJob.apply t) :=
  ⟨fun _ _ reaches => reaches.faithful (faithful_of_empty empty silent),
    fun _ t reaches jobs => reaches.runs (runs_foldl MembershipJob.runs_apply jobs t)⟩

def onPort (port : UInt16) : Endpoint := .v4 .loopback port

/-- Two nodes are reported, one of them twice, and one comes up. -/
def reported : List MembershipJob :=
  [.refreshAll .builtin .passThrough id [⟨onPort 1, {}⟩, ⟨onPort 2, {}⟩, ⟨onPort 1, {}⟩],
    .statusEvent .passThrough (onPort 1) .up, .statusEvent .passThrough (onPort 1) .up]

/-- The next report leaves out the other, which then joins again. -/
def rejoined : List MembershipJob :=
  [.refreshAll .builtin .passThrough id [⟨onPort 1, {}⟩], .contactPoints [onPort 2]]

theorem rejoining_determined :
    let t := reported.foldl MembershipJob.apply {}
    let t' := rejoined.foldl MembershipJob.apply { t with outbox := [] }
    t'.Faithful t.outbox ∧
    t.outbox =
      [.nodeAdded (onPort 1), .distanceChanged (onPort 1) .ignored .near,
        .nodeAdded (onPort 2), .distanceChanged (onPort 2) .ignored .near,
        .stateChanged (onPort 1) .unknown .up] ∧
    t'.outbox = [.nodeRemoved (onPort 2), .nodeAdded (onPort 2)] ∧
    (Replica.replay (t.outbox ++ t'.outbox)).get? (onPort 1) = some ⟨.up, .near⟩ ∧
    (Replica.replay (t.outbox ++ t'.outbox)).get? (onPort 2) = some {} := by
  intro t t'
  obtain ⟨faithful, reaches⟩ := events_determine_members {} rfl rfl
  have first : Reaches {} [] t := reaches _ _ .start reported
  have second : Reaches {} t.outbox t' := reaches _ _ first.send rejoined
  exact ⟨faithful _ _ second, by decide, by decide, by decide, by decide⟩

end NodeTable
end ClusterDriver
