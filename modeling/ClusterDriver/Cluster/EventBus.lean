import ClusterDriver.Table
/-!
# Event bus

A broadcast to any number of subscribers. Every subscriber has a position in the sequence of events
sent. The bus holds the newest events, as many as the least power of two that is not below its
capacity. A subscriber that has fallen further behind is told how many events it missed and goes on
with the oldest one held.
-/
namespace ClusterDriver

structure EventBus (ε : Type) where
  capacity : Nat
  isOpen : Bool := true
  /-- Every event sent, the newest last. -/
  sent : Array ε := #[]
  /-- Of each live subscriber, how many of the events sent it is past. -/
  cursors : Table Nat Nat := .empty
  joined : Nat := 0

inductive Received (ε : Type) where
  | event (e : ε)
  | lagged (missed : Nat)
  | empty
  | closed
  /-- There is no such live subscriber. -/
  | absent
  deriving DecidableEq, Repr

namespace EventBus
variable {ε : Type}

def defaultCapacity : Nat := 256

/-- How many events a bus of this capacity holds. -/
def window (capacity : Nat) : Nat :=
  if capacity ≤ 1 then 1 else Nat.pow 2 ((capacity - 1).log2 + 1)

/-- The widest window that can be asked of memory: 2 ^ 56 places of 64 bytes take 2 ^ 62 bytes, and
an area has to stay below 2 ^ 63. -/
def widestWindow : Nat := 72057594037927936

/-- A bus of this capacity can be made. -/
def admits (capacity : Nat) : Bool := window capacity ≤ widestWindow

def ofCapacity (capacity : Nat) : EventBus ε := { capacity }

def subscribers (b : EventBus ε) : Nat := b.cursors.entries.length

/-- The position of the oldest event that the bus still holds. -/
def oldest (b : EventBus ε) : Nat := b.sent.size - window b.capacity

/-- A subscriber receives what is sent after it joined. -/
def subscribe (b : EventBus ε) : Nat × EventBus ε :=
  (b.joined, { b with cursors := b.cursors.insert b.joined b.sent.size, joined := b.joined + 1 })

def unsubscribe (b : EventBus ε) (subscriber : Nat) : EventBus ε :=
  { b with cursors := b.cursors.erase subscriber }

/-- The number of subscribers that will see the event. With none it goes nowhere. -/
def publish (b : EventBus ε) (e : ε) : Nat × EventBus ε :=
  if b.subscribers = 0 then (0, b)
  else (b.subscribers, { b with sent := b.sent.push e })

def publishAll (b : EventBus ε) (events : List ε) : EventBus ε :=
  events.foldl (fun b e => (b.publish e).2) b

def close (b : EventBus ε) : EventBus ε := { b with isOpen := false }

def moveTo (b : EventBus ε) (subscriber position : Nat) : EventBus ε :=
  { b with cursors := b.cursors.insert subscriber position }

def receive (b : EventBus ε) (subscriber : Nat) : Received ε × EventBus ε :=
  match b.cursors.get? subscriber with
  | none => (.absent, b)
  | some position =>
    if position < b.oldest then (.lagged (b.oldest - position), b.moveTo subscriber b.oldest)
    else match b.sent[position]? with
      | some e => (.event e, b.moveTo subscriber (position + 1))
      | none => (if b.isOpen then .empty else .closed, b)

/-- Receives until nothing is left; the end of a closed bus is part of the answer. -/
def receiveUpTo (fuel : Nat) (b : EventBus ε) (subscriber : Nat) : List (Received ε) × EventBus ε :=
  match fuel with
  | 0 => ([], b)
  | fuel + 1 =>
    match b.receive subscriber with
    | (.empty, b) => ([], b)
    | (.absent, b) => ([], b)
    | (.closed, b) => ([.closed], b)
    | (r, b) =>
      let (rest, b) := receiveUpTo fuel b subscriber
      (r :: rest, b)

/-- A lag, the events sent and the end are all there can be. -/
def receiveAll (b : EventBus ε) (subscriber : Nat) : List (Received ε) × EventBus ε :=
  receiveUpTo (b.sent.size + 2) b subscriber

end EventBus
end ClusterDriver
