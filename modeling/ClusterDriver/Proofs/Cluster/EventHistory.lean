import ClusterDriver.Cluster.EventBus
import ClusterDriver.Proofs.GrowingLists
import Mathlib.Data.List.Induction
import Mathlib.Data.Set.Card
/-!
# Histories of a bus

Subscribers join, receive and leave, events are published and the bus is dropped, in any order.
Nothing is assumed of the order: what is said here holds of every history, those in which a bus that
was dropped is used again among them.
-/
namespace ClusterDriver
namespace EventBus

inductive Action (ε : Type) where
  | subscribe
  | publish (e : ε)
  | receive (subscriber : Nat)
  | unsubscribe (subscriber : Nat)
  | close
  deriving DecidableEq

variable {ε : Type} {b : EventBus ε} {n capacity : Nat} {a : Action ε}
  {actions before since : List (Action ε)}

def perform (b : EventBus ε) : Action ε → EventBus ε
  | .subscribe => b.subscribe.2
  | .publish e => (b.publish e).2
  | .receive subscriber => (b.receive subscriber).2
  | .unsubscribe subscriber => b.unsubscribe subscriber
  | .close => b.close

def after (capacity : Nat) (actions : List (Action ε)) : EventBus ε :=
  actions.foldl perform (.ofCapacity capacity)

def Action.event? : Action ε → Option ε
  | .publish e => some e
  | _ => none

def published (actions : List (Action ε)) : List ε := actions.filterMap Action.event?

def Action.joins : Action ε → Bool
  | .subscribe => true
  | _ => false

/-- Subscribers are numbered as they join. -/
def joins (actions : List (Action ε)) : Nat := actions.countP Action.joins

/-- The subscriber joined and was not dropped since. -/
def Live (actions : List (Action ε)) (n : Nat) : Prop :=
  ∃ before since, actions = before ++ .subscribe :: since ∧ joins before = n ∧
    .unsubscribe n ∉ since

theorem receive_frame (b : EventBus ε) (n : Nat) : (b.receive n).2 = b ∨
    ∃ position position', b.cursors.get? n = some position ∧ position' ≤ b.sent.size ∧
      (b.receive n).2 = b.moveTo n position' := by
  cases here : b.cursors.get? n with
  | none => exact .inl (by rw [receive, here])
  | some position =>
    rw [receive, here]
    simp only
    split
    · exact .inr ⟨position, b.oldest, rfl, Nat.sub_le .., rfl⟩
    · split
      · rename_i e sent
        exact .inr ⟨position, position + 1, rfl, (Array.getElem?_eq_some_iff.1 sent).1, rfl⟩
      · exact .inl rfl

/-- An answer changes nothing but places. -/
theorem receive_rest (b : EventBus ε) (n : Nat) :
    ∃ cursors, (b.receive n).2 = { b with cursors := cursors } := by
  rcases b.receive_frame n with same | ⟨_, position, -, -, moved⟩
  · exact ⟨b.cursors, same⟩
  · exact ⟨b.cursors.insert n position, moved⟩

theorem publish_rest (b : EventBus ε) (e : ε) :
    ∃ sent, (b.publish e).2 = { b with sent := sent } := by
  rw [publish]
  split
  · exact ⟨b.sent, rfl⟩
  · exact ⟨b.sent.push e, rfl⟩

@[simp] theorem capacity_perform : (b.perform a).capacity = b.capacity := by
  cases a with
  | publish e =>
    obtain ⟨_, same⟩ := b.publish_rest e
    rw [perform, same]
  | receive n =>
    obtain ⟨_, same⟩ := b.receive_rest n
    rw [perform, same]
  | _ => rfl

theorem joined_perform : (b.perform a).joined = b.joined + [a].countP Action.joins := by
  cases a with
  | publish e =>
    obtain ⟨_, same⟩ := b.publish_rest e
    rw [perform, same]
    rfl
  | receive n =>
    obtain ⟨_, same⟩ := b.receive_rest n
    rw [perform, same]
    rfl
  | _ => rfl

/-- A number stands for a subscriber from when it joins until it is dropped. -/
theorem cursors_perform (m : Nat) : (∃ p, (b.perform a).cursors.get? m = some p) ↔
    a.joins ∧ b.joined = m ∨ (∃ p, b.cursors.get? m = some p) ∧ a ≠ .unsubscribe m := by
  cases a with
  | subscribe =>
    simp only [perform, subscribe, Table.get?_insert]
    by_cases own : b.joined = m <;> simp [own, Action.joins]
  | publish e =>
    rw [perform, publish]
    split <;> simp [Action.joins]
  | receive n =>
    rcases b.receive_frame n with h | ⟨p, p', here, -, h⟩
    · simp [perform, h, Action.joins]
    · simp only [perform, h, moveTo, Table.get?_insert]
      by_cases own : n = m
      · subst own
        simp [here, Action.joins]
      · simp [own, Action.joins]
  | unsubscribe n =>
    simp only [perform, unsubscribe, Table.get?_erase]
    by_cases own : n = m <;> simp [own, Action.joins]
  | close => simp [perform, close, Action.joins]

@[simp] theorem capacity_foldl : (actions.foldl perform b).capacity = b.capacity := by
  induction actions generalizing b with
  | nil => rfl
  | cons a actions ih => rw [List.foldl_cons, ih, capacity_perform]

theorem after_append :
    after capacity (before ++ since) = since.foldl perform (after capacity before) :=
  List.foldl_append

theorem joined_after (capacity : Nat) (actions : List (Action ε)) :
    (after capacity actions).joined = joins actions := by
  induction actions using List.reverseRecOn with
  | nil => rfl
  | append_singleton actions a ih =>
    rw [after_append, List.foldl_cons, List.foldl_nil, joined_perform, ih, joins, joins,
      List.countP_append]

theorem isOpen_perform : (b.perform a).isOpen = true ↔ b.isOpen = true ∧ a ≠ .close := by
  cases a with
  | publish e =>
    obtain ⟨_, same⟩ := b.publish_rest e
    rw [perform, same]
    simp
  | receive n =>
    obtain ⟨_, same⟩ := b.receive_rest n
    rw [perform, same]
    simp
  | _ => simp [perform, subscribe, unsubscribe, close]

theorem isOpen_foldl :
    (actions.foldl perform b).isOpen = true ↔ b.isOpen = true ∧ .close ∉ actions := by
  induction actions generalizing b with
  | nil => simp
  | cons a actions ih =>
    rw [List.foldl_cons, ih, isOpen_perform, List.mem_cons, not_or, and_assoc]
    exact and_congr_right fun _ => and_congr_left fun _ => ne_comm

theorem live_concat : Live (actions ++ [a]) n ↔
    a.joins ∧ joins actions = n ∨ Live actions n ∧ a ≠ .unsubscribe n := by
  constructor
  · rintro ⟨before, since, split, joined, stays⟩
    rcases concat_eq_append_cons_iff.1 split with ⟨rfl, rfl, -⟩ | ⟨since, rfl, rfl⟩
    · exact .inl ⟨rfl, joined⟩
    · rw [List.mem_append, List.mem_singleton, not_or] at stays
      exact .inr ⟨⟨before, since, rfl, joined, stays.1⟩, Ne.symm stays.2⟩
  · rintro (⟨joins, joined⟩ | ⟨⟨before, since, rfl, joined, stays⟩, other⟩)
    · cases a with
      | subscribe => exact ⟨actions, [], rfl, joined, List.not_mem_nil⟩
      | _ => cases joins
    · refine ⟨before, since ++ [a], by simp, joined, ?_⟩
      rw [List.mem_append, List.mem_singleton, not_or]
      exact ⟨stays, other.symm⟩

theorem cursors_after (capacity : Nat) (actions : List (Action ε)) (n : Nat) :
    n ∈ (after capacity actions).cursors.keys ↔ Live actions n := by
  rw [Table.mem_keys]
  induction actions using List.reverseRecOn generalizing n with
  | nil => exact ⟨fun ⟨_, h⟩ => by simp [after, ofCapacity] at h, fun ⟨_, _, h, _⟩ => by simp at h⟩
  | append_singleton actions a ih =>
    rw [after_append, List.foldl_cons, List.foldl_nil, cursors_perform, live_concat, ih,
      joined_after]

theorem subscribers_after (capacity : Nat) (actions : List (Action ε)) :
    ((after capacity actions).subscribers : ENat) = {n | Live actions n}.encard := by
  have same :
      {n | Live actions n} = ((after capacity actions).cursors.keys.toFinset : Set Nat) := by
    ext n
    rw [Finset.mem_coe, List.mem_toFinset, cursors_after]
    rfl
  have once : (after capacity actions).cursors.keys.Nodup :=
    (after capacity actions).cursors.nodup_keys
  rw [same, Set.encard_coe_eq_coe_finsetCard, List.toFinset_card_of_nodup once, Table.keys,
    List.length_map, subscribers]

end EventBus
end ClusterDriver
