import ClusterDriver.Proofs.Cluster.EventHistory
/-!
# Inboxes

The subscribers of a bus share what was sent, and yet each of them receives as if it had an inbox of
its own, in which every event is put and whose oldest events are passed over once there are more of
them than the window is wide. That the answers account for every event is shown of the inbox.
-/
namespace ClusterDriver

/-- The answers take the events one after the other, and a lag passes over as many as it says. -/
inductive Accounts {ε : Type} : List (Received ε) → List ε → Prop where
  | nil : Accounts [] []
  | event {e : ε} {answers events} :
    Accounts answers events → Accounts (.event e :: answers) (e :: events)
  | lagged {skipped : List ε} {answers events} :
    Accounts answers events → Accounts (.lagged skipped.length :: answers) (skipped ++ events)
  | empty {answers events} : Accounts answers events → Accounts (.empty :: answers) events
  | closed {answers events} : Accounts answers events → Accounts (.closed :: answers) events

/-- What happens to a bus, as far as it matters to one of its subscribers. -/
inductive Seen (ε : Type) where
  | published (e : ε)
  | asked
  | closed

def Seen.event? {ε : Type} : Seen ε → Option ε
  | .published e => some e
  | .asked => none
  | .closed => none

/-- The events that a subscriber has still to receive. -/
structure Inbox (ε : Type) where
  pending : List ε
  isOpen : Bool

namespace Inbox
variable {ε : Type} {size : Nat} {i : Inbox ε}

def answer (size : Nat) (i : Inbox ε) : Received ε :=
  if size < i.pending.length then .lagged (i.pending.length - size)
  else match i.pending with
    | [] => if i.isOpen then .empty else .closed
    | e :: _ => .event e

/-- How many events the next answer takes, if there are any. -/
def advance (size : Nat) (i : Inbox ε) : Nat :=
  if size < i.pending.length then i.pending.length - size else 1

def perform (size : Nat) (i : Inbox ε) : Seen ε → Inbox ε
  | .published e => { i with pending := i.pending ++ [e] }
  | .asked => { i with pending := i.pending.drop (i.advance size) }
  | .closed => { i with isOpen := false }

def answers (size : Nat) (i : Inbox ε) : List (Seen ε) → List (Received ε)
  | [] => []
  | .asked :: rest => i.answer size :: answers size (i.perform size .asked) rest
  | .published e :: rest => answers size (i.perform size (.published e)) rest
  | .closed :: rest => answers size (i.perform size .closed) rest

theorem accounts_answer {later : List (Received ε)} {events : List ε}
    (accounts : Accounts later events) :
    Accounts (i.answer size :: later) (i.pending.take (i.advance size) ++ events) := by
  obtain ⟨pending, isOpen⟩ := i
  rw [answer, advance]
  split
  · have length : (pending.take (pending.length - size)).length = pending.length - size := by
      rw [List.length_take]
      omega
    have lagged := @Accounts.lagged _ (pending.take (pending.length - size)) _ _ accounts
    rwa [length] at lagged
  · cases pending with
    | cons e rest => exact accounts.event
    | nil =>
      cases isOpen with
      | true => exact accounts.empty
      | false => exact accounts.closed

theorem accounts_answers (size : Nat) (i : Inbox ε) (seen : List (Seen ε)) : ∃ consumed,
    i.pending ++ seen.filterMap Seen.event? = consumed ++ (seen.foldl (perform size) i).pending ∧
      Accounts (i.answers size seen) consumed := by
  induction seen generalizing i with
  | nil => exact ⟨[], by simp, .nil⟩
  | cons s seen ih =>
    obtain ⟨consumed, balance, accounts⟩ := ih (i.perform size s)
    cases s with
    | published e => exact ⟨consumed, by simpa [Seen.event?, perform] using balance, accounts⟩
    | closed => exact ⟨consumed, balance, accounts⟩
    | asked =>
      refine ⟨i.pending.take (i.advance size) ++ consumed, ?_, accounts_answer accounts⟩
      rw [List.append_assoc, List.foldl_cons, ← balance, ← List.append_assoc, perform,
        List.take_append_drop]
      rfl

theorem pending_foldl {seen : List (Seen ε)} (only : ∀ s ∈ seen, s = .closed) :
    (seen.foldl (perform size) i).pending = i.pending := by
  induction seen generalizing i with
  | nil => rfl
  | cons s seen ih =>
    rw [List.foldl_cons, ih fun s' among => only s' (List.mem_cons_of_mem s among),
      only s List.mem_cons_self]
    rfl

end Inbox

namespace EventBus
variable {ε : Type} {b : EventBus ε} {n : Nat} {i : Inbox ε} {a : Action ε}
  {since : List (Action ε)}

/-- The answers that a subscriber is given in the course of the actions. -/
def answersTo (n : Nat) (b : EventBus ε) : List (Action ε) → List (Received ε)
  | [] => []
  | a :: rest =>
    let later := answersTo n (b.perform a) rest
    match a with
    | .receive m => if m = n then (b.receive m).1 :: later else later
    | _ => later

/-- What of an action concerns a subscriber that stays. -/
def Action.seenBy (n : Nat) : Action ε → Option (Seen ε)
  | .subscribe => none
  | .publish e => some (.published e)
  | .receive m => if m = n then some .asked else none
  | .unsubscribe _ => none
  | .close => some .closed

def seenBy (n : Nat) (actions : List (Action ε)) : List (Seen ε) :=
  actions.filterMap (Action.seenBy n)

theorem events_seenBy (n : Nat) (actions : List (Action ε)) :
    (seenBy n actions).filterMap Seen.event? = published actions := by
  rw [seenBy, List.filterMap_filterMap, published]
  congr 1
  funext a
  cases a with
  | receive m =>
    by_cases own : m = n <;> simp [Action.seenBy, Action.event?, Seen.event?, own]
  | _ => rfl

def inbox? (b : EventBus ε) (n : Nat) : Option (Inbox ε) :=
  (b.cursors.get? n).map fun position =>
    { pending := b.sent.toList.drop position, isOpen := b.isOpen }

/-- No subscriber has a number that is still to be given, and none is past what was sent. -/
def Sound (b : EventBus ε) : Prop :=
  ∀ n position, b.cursors.get? n = some position → n < b.joined ∧ position ≤ b.sent.size

theorem inbox?_eq_some : b.inbox? n = some i ↔ ∃ position, b.cursors.get? n = some position ∧
    i = { pending := b.sent.toList.drop position, isOpen := b.isOpen } := by
  rw [inbox?, Option.map_eq_some_iff]
  exact exists_congr fun _ => and_congr_right fun _ => eq_comm

theorem isOpen_of_inbox (here : b.inbox? n = some i) : i.isOpen = b.isOpen := by
  obtain ⟨_, -, rfl⟩ := inbox?_eq_some.1 here
  rfl

theorem Sound.perform (sound : b.Sound) (a : Action ε) : (b.perform a).Sound := by
  intro n position here
  cases a with
  | subscribe =>
    rw [EventBus.perform, subscribe, Table.get?_insert] at here
    split at here
    · rename_i own
      cases here
      exact ⟨own ▸ Nat.lt_succ_self _, le_rfl⟩
    · exact ⟨Nat.lt_succ_of_lt (sound n position here).1, (sound n position here).2⟩
  | publish e =>
    rw [EventBus.perform, publish] at here ⊢
    split at here
    · rename_i alone
      rw [if_pos alone]
      exact sound n position here
    · rename_i heard
      rw [if_neg heard]
      exact ⟨(sound n position here).1, by
        rw [Array.size_push]
        exact Nat.le_succ_of_le (sound n position here).2⟩
  | receive m =>
    rcases b.receive_frame m with same | ⟨p, p', there, reached, same⟩
    · rw [EventBus.perform, same] at here ⊢
      exact sound n position here
    · rw [EventBus.perform, same] at here ⊢
      rw [moveTo, Table.get?_insert] at here
      split at here
      · rename_i own
        cases here
        exact ⟨own ▸ (sound m p there).1, reached⟩
      · exact sound n position here
  | unsubscribe m =>
    rw [EventBus.perform, unsubscribe, Table.get?_erase] at here
    split at here
    · cases here
    · exact sound n position here
  | close => exact sound n position here

theorem Sound.foldl (sound : b.Sound) (actions : List (Action ε)) :
    (actions.foldl EventBus.perform b).Sound := by
  induction actions generalizing b with
  | nil => exact sound
  | cons a actions ih => exact ih (sound.perform a)

theorem sound_after (capacity : Nat) (actions : List (Action ε)) :
    (after capacity actions).Sound :=
  Sound.foldl (fun n position here => by simp [ofCapacity] at here) actions

theorem inbox?_subscribe (b : EventBus ε) :
    b.subscribe.2.inbox? b.subscribe.1 = some { pending := [], isOpen := b.isOpen } := by
  rw [inbox?_eq_some]
  exact ⟨b.sent.size, Table.get?_insert_self .., by simp [subscribe]⟩

/-- A subscriber is answered out of its inbox. -/
theorem receive_inbox (sound : b.Sound) (here : b.inbox? n = some i) :
    (b.receive n).1 = i.answer (window b.capacity) ∧
      (b.receive n).2.inbox? n = some (i.perform (window b.capacity) .asked) := by
  obtain ⟨position, there, rfl⟩ := inbox?_eq_some.1 here
  have reached := (sound n position there).2
  have length : (b.sent.toList.drop position).length = b.sent.size - position := by
    rw [List.length_drop, Array.length_toList]
  rw [receive, there, Inbox.answer, Inbox.perform, Inbox.advance, List.drop_drop]
  have held : b.oldest = b.sent.size - window b.capacity := rfl
  simp only [length]
  by_cases old : position < b.oldest
  · have behind : window b.capacity < b.sent.size - position := by omega
    have there' : position + (b.sent.size - position - window b.capacity) = b.oldest := by omega
    have missed : b.oldest - position = b.sent.size - position - window b.capacity := by omega
    rw [if_pos old, if_pos behind, if_pos behind, there', missed]
    exact ⟨rfl, inbox?_eq_some.2 ⟨_, Table.get?_insert_self .., rfl⟩⟩
  · have near : ¬ window b.capacity < b.sent.size - position := by omega
    rw [if_neg old, if_neg near, if_neg near]
    cases at_position : b.sent[position]? with
    | some e =>
      obtain ⟨inside, is_e⟩ := Array.getElem?_eq_some_iff.1 at_position
      have starts : b.sent.toList.drop position = e :: b.sent.toList.drop (position + 1) := by
        rw [List.drop_eq_getElem_cons (by simpa using inside), Array.getElem_toList, is_e]
      exact ⟨by rw [starts], inbox?_eq_some.2 ⟨_, Table.get?_insert_self .., rfl⟩⟩
    | none =>
      have past := Array.getElem?_eq_none_iff.1 at_position
      have none_left : b.sent.toList.drop position = [] := List.drop_eq_nil_of_le past
      refine ⟨by rw [none_left], inbox?_eq_some.2 ⟨_, there, ?_⟩⟩
      rw [none_left, List.drop_eq_nil_of_le (Nat.le_succ_of_le past)]

theorem inbox?_perform (sound : b.Sound) (here : b.inbox? n = some i)
    (stays : a ≠ .unsubscribe n) :
    (b.perform a).inbox? n = some ((a.seenBy n).elim i (i.perform (window b.capacity))) := by
  by_cases own : a = .receive n
  · subst own
    rw [Action.seenBy, if_pos rfl]
    exact (receive_inbox sound here).2
  obtain ⟨position, there, rfl⟩ := inbox?_eq_some.1 here
  have reached := (sound n position there).2
  rw [inbox?_eq_some]
  cases a with
  | subscribe =>
    have other : b.joined ≠ n := (sound n position there).1.ne'
    exact ⟨position, by rw [perform, subscribe, Table.get?_insert_of_ne _ other, there], rfl⟩
  | publish e =>
    have heard : ¬ b.subscribers = 0 := by
      have among := Table.mem_keys_of_get? there
      rw [subscribers, List.length_eq_zero_iff]
      intro none_there
      rw [Table.keys, none_there] at among
      cases among
    rw [perform, publish, if_neg heard]
    refine ⟨position, there, ?_⟩
    rw [Array.toList_push, List.drop_append_of_le_length (by simpa using reached)]
    rfl
  | receive m =>
    have other : m ≠ n := fun same => own (by rw [same])
    rw [Action.seenBy, if_neg other]
    rcases b.receive_frame m with same | ⟨p, p', -, -, same⟩
    · exact ⟨position, by rw [perform, same, there], by rw [perform, same]; rfl⟩
    · refine ⟨position, ?_, by rw [perform, same]; rfl⟩
      rw [perform, same, moveTo, Table.get?_insert_of_ne _ other, there]
  | unsubscribe m =>
    have other : m ≠ n := fun same => stays (by rw [same])
    exact ⟨position, by rw [perform, unsubscribe, Table.get?_erase_of_ne _ other, there], rfl⟩
  | close => exact ⟨position, there, rfl⟩

/-- A subscriber that stays is answered as out of an inbox of its own. -/
theorem answersTo_eq (sound : b.Sound) (here : b.inbox? n = some i)
    (stays : .unsubscribe n ∉ since) :
    answersTo n b since = i.answers (window b.capacity) (seenBy n since) ∧
      (since.foldl perform b).inbox? n =
        some ((seenBy n since).foldl (Inbox.perform (window b.capacity)) i) := by
  induction since generalizing b i with
  | nil => exact ⟨rfl, here⟩
  | cons a since ih =>
    rw [List.mem_cons, not_or] at stays
    have later := ih (sound.perform a) (inbox?_perform sound here (Ne.symm stays.1)) stays.2
    rw [capacity_perform] at later
    have answered := (receive_inbox sound here).1
    cases a with
    | receive m =>
      by_cases own : m = n
      · subst own
        simp only [seenBy, Action.seenBy, if_true, Option.elim, answersTo, List.foldl_cons,
          List.filterMap_cons, Inbox.answers, answered] at later ⊢
        exact ⟨by rw [later.1], later.2⟩
      · simp only [seenBy, Action.seenBy, if_neg own, Option.elim, answersTo, List.foldl_cons,
          List.filterMap_cons] at later ⊢
        exact later
    | _ => exact later

end EventBus
end ClusterDriver
