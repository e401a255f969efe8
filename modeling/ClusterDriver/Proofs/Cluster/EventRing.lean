import ClusterDriver.Cluster.EventBus
import Mathlib.Algebra.Group.Nat.Defs
import Mathlib.Data.List.Induction
import Mathlib.Order.Bounds.Basic
/-!
# The ring of events

A bus holds what a ring of as many places as its window is wide holds: each event is written over
the oldest one when all places are taken. A subscriber receives what stands at its own place in the
ring.
-/
namespace ClusterDriver

/-- Each place holds an event with its position in the sequence of all events. -/
structure Ring (ε : Type) where
  places : List (Option (Nat × ε))
  next : Nat := 0

namespace Ring
variable {ε : Type} {r : Ring ε} {position : Nat} {e : ε}

def ofSize (size : Nat) : Ring ε := { places := List.replicate size none }

/-- The place of the next event is taken, whatever it holds. -/
def write (r : Ring ε) (e : ε) : Ring ε where
  places := r.places.set (r.next % r.places.length) (some (r.next, e))
  next := r.next + 1

def Holds (r : Ring ε) (position : Nat) (e : ε) : Prop := some (position, e) ∈ r.places

/-- What is received at a position: the event itself if it still stands there, nothing if its place
is still to be written, and otherwise how far the oldest event is. -/
def read (r : Ring ε) (isOpen : Bool) (position : Nat) : Received ε :=
  let nothing := if isOpen then .empty else .closed
  match (r.places[position % r.places.length]?).join with
  | none => nothing
  | some (written, e) =>
    if written = position then .event e
    else if written + r.places.length = position then nothing
    else .lagged (r.next - r.places.length - position)

/-- Each place holds the last event that was written there, and there are no others. -/
structure Filled (size : Nat) (events : List ε) (r : Ring ε) : Prop where
  length : r.places.length = size
  next : r.next = events.length
  written : ∀ i position e, r.places[i]? = some (some (position, e)) →
    position % size = i ∧ events[position]? = some e ∧ events.length ≤ position + size
  unwritten : ∀ i, r.places[i]? = some none → events.length ≤ i

theorem filled_ofSize (size : Nat) : Filled size [] (ofSize size : Ring ε) where
  length := List.length_replicate
  next := rfl
  written i position e here := by simp [ofSize, List.getElem?_replicate] at here
  unwritten i _ := Nat.zero_le i

theorem Filled.write {size : Nat} {events : List ε} (positive : 0 < size)
    (filled : Filled size events r) (e : ε) : Filled size (events ++ [e]) (r.write e) where
  length := by rw [Ring.write, List.length_set, filled.length]
  next := by rw [Ring.write, filled.next, List.length_append, List.length_singleton]
  written i position e' here := by
    rw [Ring.write, filled.length, filled.next, List.getElem?_set] at here
    split at here
    · rename_i place
      split at here
      · cases here
        exact ⟨place, by simp, by rw [List.length_append, List.length_singleton]; omega⟩
      · cases here
    · rename_i place
      obtain ⟨same, stands, recent⟩ := filled.written i position e' here
      have differ : position + size ≠ events.length := fun h =>
        place (by rw [← h, Nat.add_mod_right, same])
      refine ⟨same, ?_, by rw [List.length_append, List.length_singleton]; omega⟩
      rw [List.getElem?_append_left (List.getElem?_eq_some_iff.1 stands).1, stands]
  unwritten i here := by
    rw [Ring.write, filled.length, filled.next, List.getElem?_set] at here
    split at here
    · split at here <;> cases here
    · rename_i place
      have low := filled.unwritten i here
      have inside : i < size := filled.length ▸ (List.getElem?_eq_some_iff.1 here).1
      have differ : events.length ≠ i := fun h => place (by rw [h, Nat.mod_eq_of_lt inside])
      rw [List.length_append, List.length_singleton]
      omega

/-- Of the positions that are not further apart than the ring is wide, each has a place of its
own. -/
theorem eq_of_mod_eq {size p q : Nat} (same : p % size = q % size) (near : p < q + size)
    (near' : q < p + size) : p = q := by
  rcases Nat.le_total p q with le | le
  · have zero := Nat.eq_zero_of_dvd_of_lt
      (Nat.dvd_of_mod_eq_zero (Nat.sub_mod_eq_zero_of_mod_eq same.symm)) (by omega : q - p < size)
    omega
  · have zero := Nat.eq_zero_of_dvd_of_lt
      (Nat.dvd_of_mod_eq_zero (Nat.sub_mod_eq_zero_of_mod_eq same)) (by omega : p - q < size)
    omega

/-- What is at the place of a position: nothing yet, or the last event that was written there. -/
theorem Filled.place {size : Nat} {events : List ε} (positive : 0 < size)
    (filled : Filled size events r) (position : Nat) :
    (r.places[position % size]? = some none ∧ events.length ≤ position % size) ∨
      ∃ written e, r.places[position % size]? = some (some (written, e)) ∧
        written % size = position % size ∧ events[written]? = some e ∧
          events.length ≤ written + size := by
  have inside : position % size < r.places.length := by
    rw [filled.length]
    exact Nat.mod_lt position positive
  obtain ⟨x, here⟩ : ∃ x, r.places[position % size]? = some x :=
    ⟨_, List.getElem?_eq_getElem inside⟩
  rcases x with _ | ⟨written, e⟩
  · exact .inl ⟨here, filled.unwritten _ here⟩
  · exact .inr ⟨written, e, here, filled.written _ _ _ here⟩

/-- An event that is not older than the ring is wide stands at its place. -/
theorem Filled.stands {size : Nat} {events : List ε} (positive : 0 < size)
    (filled : Filled size events r) (sent : events[position]? = some e)
    (recent : events.length ≤ position + size) :
    r.places[position % size]? = some (some (position, e)) := by
  have before : position < events.length := (List.getElem?_eq_some_iff.1 sent).1
  rcases filled.place positive position with ⟨-, low⟩ | ⟨written, e', here, same, stands, near⟩
  · have le := Nat.mod_le position size
    omega
  · have before' : written < events.length := (List.getElem?_eq_some_iff.1 stands).1
    obtain rfl := eq_of_mod_eq same (by omega) (by omega)
    rw [here, Option.some.inj (stands.symm.trans sent)]

theorem Filled.holds_iff {size : Nat} {events : List ε} (positive : 0 < size)
    (filled : Filled size events r) :
    r.Holds position e ↔ events.length - size ≤ position ∧ events[position]? = some e := by
  constructor
  · intro holds
    obtain ⟨i, here⟩ := List.getElem?_of_mem holds
    obtain ⟨-, stands, near⟩ := filled.written i position e here
    exact ⟨by omega, stands⟩
  · rintro ⟨recent, sent⟩
    exact List.mem_of_getElem? (filled.stands positive sent (by omega))

theorem Filled.read_of_old {size : Nat} {events : List ε} (positive : 0 < size)
    (filled : Filled size events r) (isOpen : Bool) (old : position < events.length - size) :
    r.read isOpen position = .lagged (events.length - size - position) := by
  rcases filled.place positive position with ⟨-, low⟩ | ⟨written, e', here, -, -, near⟩
  · have inside := Nat.mod_lt position positive
    omega
  · rw [read, filled.length, here, filled.next]
    simp only [Option.join_some]
    rw [if_neg (by omega), if_neg (by omega)]

theorem Filled.read_of_held {size : Nat} {events : List ε} (positive : 0 < size)
    (filled : Filled size events r) (isOpen : Bool) (sent : events[position]? = some e)
    (recent : events.length - size ≤ position) : r.read isOpen position = .event e := by
  rw [read, filled.length, filled.stands positive sent (by omega)]
  simp

theorem Filled.read_of_unsent {size : Nat} {events : List ε} (positive : 0 < size)
    (filled : Filled size events r) (isOpen : Bool) :
    r.read isOpen events.length = if isOpen then .empty else .closed := by
  rcases filled.place positive events.length with
    ⟨here, -⟩ | ⟨written, e', here, same, stands, near⟩
  · rw [read, filled.length, here]
    rfl
  · have before : written < events.length := (List.getElem?_eq_some_iff.1 stands).1
    -- the place is one round behind
    have round : written + size = events.length :=
      eq_of_mod_eq (by rw [Nat.add_mod_right, same]) (by omega) (by omega)
    rw [read, filled.length, here]
    simp only [Option.join_some]
    rw [if_neg (by omega), if_pos round]

end Ring

namespace EventBus
variable {ε : Type} {b : EventBus ε} {n position : Nat} {e : ε}

def ring (b : EventBus ε) : Ring ε := b.sent.toList.foldl Ring.write (.ofSize (window b.capacity))

theorem window_isLeast (capacity : Nat) :
    IsLeast {size | max 1 capacity ≤ size ∧ ∃ k, size = 2 ^ k} (window capacity) := by
  rw [window]
  split
  · rename_i narrow
    exact ⟨⟨by omega, 0, rfl⟩, fun size fits => (Nat.le_max_left 1 capacity).trans fits.1⟩
  · rename_i wide
    have above : capacity - 1 < 2 ^ ((capacity - 1).log2 + 1) := Nat.lt_log2_self
    have below : 2 ^ (capacity - 1).log2 ≤ capacity - 1 := Nat.log2_self_le (by omega)
    refine ⟨⟨?_, _, rfl⟩, ?_⟩
    · rw [Nat.pow_eq]
      omega
    · rintro size ⟨fits, k, rfl⟩
      have less : 2 ^ (capacity - 1).log2 < 2 ^ k := by omega
      exact Nat.pow_le_pow_right (by decide) ((Nat.pow_lt_pow_iff_right (by decide)).1 less)

theorem window_pos (capacity : Nat) : 0 < window capacity := by
  have fits := (window_isLeast capacity).1.1
  omega

theorem filled_ring (b : EventBus ε) : b.ring.Filled (window b.capacity) b.sent.toList := by
  rw [ring]
  induction b.sent.toList using List.reverseRecOn with
  | nil => exact Ring.filled_ofSize _
  | append_singleton events e ih =>
    rw [List.foldl_append]
    exact ih.write (window_pos _) e

theorem holds_ring :
    b.ring.Holds position e ↔ b.oldest ≤ position ∧ b.sent[position]? = some e := by
  rw [b.filled_ring.holds_iff (window_pos _), Array.length_toList, Array.getElem?_toList, oldest]

/-- Only what stands at a subscriber's place counts for what it receives. -/
theorem receive_eq_read (at_position : b.cursors.get? n = some position)
    (reached : position ≤ b.sent.size) : (b.receive n).1 = b.ring.read b.isOpen position := by
  have filled := b.filled_ring
  have positive := window_pos b.capacity
  rw [receive, at_position]
  simp only
  split
  · rename_i old
    rw [filled.read_of_old positive _ (by simpa [oldest] using old), Array.length_toList, oldest]
  · rename_i recent
    split
    · rename_i e sent
      rw [filled.read_of_held positive _ (by simpa using sent) (by simpa [oldest] using recent)]
    · rename_i unsent
      have here : position = b.sent.toList.length := by
        have past := Array.getElem?_eq_none_iff.1 unsent
        rw [Array.length_toList]
        omega
      rw [here, filled.read_of_unsent positive]

end EventBus
end ClusterDriver
