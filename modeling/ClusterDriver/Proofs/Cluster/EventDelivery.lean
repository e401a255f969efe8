import ClusterDriver.Proofs.Cluster.EventInbox
import ClusterDriver.Proofs.Cluster.EventRing
/-!
# Deliveries

What every subscriber of a bus can rely on, however many others there are and whatever they do: each
event is answered once and in order or counted as missed, and what is missed is what the ring no
longer holds.
-/
namespace ClusterDriver.EventBus
variable {ε : Type} {b : EventBus ε} {n capacity : Nat} {i : Inbox ε}
  {before since quiet : List (Action ε)}

theorem receive_standing (sound : b.Sound) (here : b.inbox? n = some i) :
    (b.receive n).1 = b.ring.read b.isOpen (b.ring.next - i.pending.length) := by
  obtain ⟨position, there, rfl⟩ := inbox?_eq_some.1 here
  have reached := (sound n position there).2
  have back : b.ring.next - (b.sent.toList.drop position).length = position := by
    rw [b.filled_ring.next, List.length_drop, Array.length_toList]
    omega
  rw [receive_eq_read there reached, back]

theorem receive_oldest (here : b.inbox? n = some i)
    (full : i.pending.length = window b.capacity) :
    ∃ position e, (b.receive n).1 = .event e ∧ b.ring.Holds position e ∧
      ∀ other e', b.ring.Holds other e' → position ≤ other := by
  have positive := window_pos b.capacity
  obtain ⟨position, there, rfl⟩ := inbox?_eq_some.1 here
  rw [List.length_drop, Array.length_toList] at full
  have inside : position < b.sent.size := by omega
  have oldest : b.oldest = position := by
    rw [EventBus.oldest]
    omega
  have sent : b.sent[position]? = some b.sent[position] := Array.getElem?_eq_getElem inside
  refine ⟨position, b.sent[position], ?_, holds_ring.2 ⟨oldest.le, sent⟩,
    fun other e' holds => oldest ▸ (holds_ring.1 holds).1⟩
  rw [receive, there]
  simp only
  rw [if_neg (by omega), sent]

theorem seenBy_quiet (unheard : published quiet = []) (unasked : .receive n ∉ quiet) :
    ∀ s ∈ seenBy n quiet, s = .closed := by
  intro s among
  obtain ⟨a, here, seen⟩ := List.mem_filterMap.1 among
  cases a with
  | publish e =>
    have heard : e ∈ published quiet := List.mem_filterMap.2 ⟨_, here, rfl⟩
    rw [unheard] at heard
    cases heard
  | receive m =>
    rw [Action.seenBy] at seen
    split at seen
    · rename_i own
      exact absurd (own ▸ here) unasked
    · cases seen
  | close =>
    cases seen
    rfl
  | subscribe => cases seen
  | unsubscribe m => cases seen

/-- The answer to a subscriber for which these events are pending. -/
structure Due (size : Nat) (dropped : Prop) (pending : List ε) (answer : Received ε) : Prop where
  lagged : ∀ missed, answer = .lagged missed ↔
    size < pending.length ∧ missed = pending.length - size
  event : ∀ e, answer = .event e ↔ pending.length ≤ size ∧ pending.head? = some e
  empty : answer = .empty ↔ pending = [] ∧ ¬ dropped
  closed : answer = .closed ↔ pending = [] ∧ dropped
  present : answer ≠ .absent

theorem due_answer (size : Nat) {dropped : Prop} (standing : i.isOpen = true ↔ ¬ dropped) :
    Due size dropped i.pending (i.answer size) := by
  obtain ⟨pending, isOpen⟩ := i
  rw [Inbox.answer]
  split
  · rename_i behind
    have some_left : pending ≠ [] := by
      rintro rfl
      exact Nat.not_lt_zero size behind
    exact {
      lagged := fun missed => by simp [behind, eq_comm (a := missed)]
      event := fun e => by simp [behind]
      empty := by simp [some_left]
      closed := by simp [some_left]
      present := by simp }
  · rename_i near
    have close : pending.length ≤ size := Nat.le_of_not_lt near
    cases pending with
    | cons e rest => exact {
        lagged := fun missed => by simp only [reduceCtorEq, near, false_and]
        event := fun e' => by
          rw [and_iff_right close]
          simp
        empty := by simp
        closed := by simp
        present := by simp }
    | nil =>
      cases isOpen <;> exact {
        lagged := fun missed => by simp
        event := fun e => by simp
        empty := by simpa using standing
        closed := by simpa using standing
        present := by simp }

/-- What a subscriber receives in the course of `since` that joins after `before`. -/
def received (capacity : Nat) (before since : List (Action ε)) : List (Received ε) :=
  answersTo (after capacity before).subscribe.1 (after capacity before).subscribe.2 since

/-- Subscriber `n`, which joins after `before`, can account for every event of `since`, and nobody
else has a part in that. -/
structure Delivered (capacity : Nat) (before since : List (Action ε)) (n : Nat) : Prop where
  /-- The next answer is what stands in the ring, as far back as there are events pending. -/
  accounted : let b := after capacity (before ++ .subscribe :: since)
    ∃ consumed pending, published since = consumed ++ pending ∧
      Accounts (received capacity before since) consumed ∧
        Due (window capacity) (.close ∈ before ++ since) pending (b.receive n).1 ∧
          (b.receive n).1 = b.ring.read b.isOpen (b.ring.next - pending.length)
  /-- A lag is followed by the oldest event that is held. -/
  resumes : ∀ missed quiet,
    ((after capacity (before ++ .subscribe :: since)).receive n).1 = .lagged missed →
      published quiet = [] → .receive n ∉ quiet → .unsubscribe n ∉ quiet →
        let b := after capacity (before ++ .subscribe :: since ++ .receive n :: quiet)
        ∃ position e, (b.receive n).1 = .event e ∧ b.ring.Holds position e ∧
          ∀ other e', b.ring.Holds other e' → position ≤ other
  undisturbed : ∀ before' since' m, (after capacity before').subscribe.1 = m →
    .unsubscribe m ∉ since' → (.close ∈ before' ↔ .close ∈ before) →
      seenBy m since' = seenBy n since →
        received capacity before' since' = received capacity before since

theorem joined_inbox (stays : .unsubscribe (after capacity before).subscribe.1 ∉ since) :
    let n := (after capacity before).subscribe.1
    let i : Inbox ε := { pending := [], isOpen := (after capacity before).isOpen }
    received capacity before since = i.answers (window capacity) (seenBy n since) ∧
      (after capacity (before ++ .subscribe :: since)).inbox? n =
        some ((seenBy n since).foldl (Inbox.perform (window capacity)) i) := by
  have held : (after capacity before).subscribe.2.capacity = capacity := capacity_foldl
  have sound : (after capacity before).subscribe.2.Sound :=
    (sound_after capacity before).perform .subscribe
  have answered := answersTo_eq sound (inbox?_subscribe _) stays
  rw [held] at answered
  rw [after_append, List.foldl_cons]
  exact answered

theorem isOpen_after (capacity : Nat) (actions : List (Action ε)) :
    (after capacity actions).isOpen = true ↔ ¬ .close ∈ actions := by
  rw [after, isOpen_foldl]
  exact and_iff_right rfl

theorem resumes_after_lag (sound : b.Sound) (here : b.inbox? n = some i)
    (behind : window b.capacity < i.pending.length) (unheard : published quiet = [])
    (unasked : .receive n ∉ quiet) (stays : .unsubscribe n ∉ quiet) :
    ∃ position e, (((.receive n :: quiet).foldl perform b).receive n).1 = .event e ∧
      ((.receive n :: quiet).foldl perform b).ring.Holds position e ∧
        ∀ other e', ((.receive n :: quiet).foldl perform b).ring.Holds other e' →
          position ≤ other := by
  have stays' : .unsubscribe n ∉ .receive n :: quiet := fun among =>
    (List.mem_cons.1 among).elim nofun stays
  refine receive_oldest (answersTo_eq sound here stays').2 ?_
  have asked : seenBy n (.receive n :: quiet) = .asked :: seenBy n quiet :=
    List.filterMap_cons_some (if_pos rfl)
  rw [asked, List.foldl_cons, Inbox.pending_foldl (seenBy_quiet unheard unasked), Inbox.perform,
    Inbox.advance, if_pos behind, capacity_foldl, List.length_drop]
  omega

theorem delivered (stays : .unsubscribe (after capacity before).subscribe.1 ∉ since) :
    Delivered capacity before since (after capacity before).subscribe.1 := by
  obtain ⟨answers, inbox⟩ := joined_inbox stays
  have sound := sound_after capacity (before ++ .subscribe :: since)
  have held : (after capacity (before ++ .subscribe :: since)).capacity = capacity := capacity_foldl
  obtain ⟨answer, -⟩ := receive_inbox sound inbox
  have standing : (after capacity (before ++ .subscribe :: since)).isOpen = true ↔
      ¬ .close ∈ before ++ since := by
    rw [isOpen_after]
    simp
  have due := due_answer (window capacity) ((isOpen_of_inbox inbox).symm ▸ standing)
  rw [held] at answer
  rw [← answer] at due
  refine ⟨?_, fun missed quiet lag unheard unasked stays' => ?_,
    fun before' since' m joins stays' open_or_not same => ?_⟩
  · obtain ⟨consumed, balance, accounts⟩ := Inbox.accounts_answers (window capacity)
      { pending := [], isOpen := (after capacity before).isOpen }
      (seenBy (after capacity before).subscribe.1 since)
    rw [events_seenBy, List.nil_append] at balance
    exact ⟨consumed, _, balance, answers ▸ accounts, due, receive_standing sound inbox⟩
  · rw [after_append]
    exact resumes_after_lag sound inbox (held.symm ▸ ((due.lagged missed).1 lag).1) unheard unasked
      stays'
  · subst joins
    have alike : (after capacity before').isOpen = (after capacity before).isOpen := by
      rw [Bool.eq_iff_iff, isOpen_after, isOpen_after, open_or_not]
    rw [answers, (joined_inbox stays').1, same, alike]

/-- Answers account for the events, lags say what is passed over, each event is sent to all that
are there, and nobody is served differently because of the others. -/
theorem deliveries_account (capacity : Nat) :
    IsLeast {size | max 1 capacity ≤ size ∧ ∃ k, size = 2 ^ k} (window capacity) ∧
      (∀ (actions : List (Action ε)) (e : ε),
        ((after capacity actions).publish e).1 = {n | Live actions n}.encard) ∧
      ∀ before since : List (Action ε), .unsubscribe (after capacity before).subscribe.1 ∉ since →
        Delivered capacity before since (after capacity before).subscribe.1 := by
  refine ⟨window_isLeast capacity, fun actions e => ?_, fun before since => delivered⟩
  rw [← subscribers_after, publish]
  split
  · rename_i alone
    rw [alone]
  · rfl

/-- Four events are kept of a ring of three, and the second subscriber is told of the two that it
missed. -/
theorem four_places_for_three :
    let before : List (Action Nat) := [.subscribe, .publish 0]
    let since := [.publish 1, .publish 2, .receive 0, .publish 3, .publish 4, .publish 5,
      .publish 6, .receive 1, .unsubscribe 0, .receive 1, .close]
    window 3 = 4 ∧ (after 3 before).subscribe.1 = 1 ∧
      received 3 before since = [.lagged 2, .event 3] ∧ Delivered 3 before since 1 ∧
        ((after 3 (before ++ .subscribe :: since)).publish 7).1 = 1 := by
  refine ⟨by decide, by decide, by decide, ?_, by decide⟩
  exact (deliveries_account 3).2.2 [.subscribe, .publish 0] _ (by decide)

end ClusterDriver.EventBus
