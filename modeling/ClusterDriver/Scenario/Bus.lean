import ClusterDriver.Cluster.EventBus
import ClusterDriver.Cluster.Node
import ClusterDriver.Scenario.Report
/-!
# Sessions over an event bus
-/
namespace ClusterDriver.Scenario

def receivedJson : Received Event → Json
  | .event e => e.toJson
  | .lagged missed => .object [("lagged", .nat missed)]
  | .empty => .text "empty"
  | .closed => .text "closed"
  | .absent => .text "dropped"

/-- The kind of event among which the order is left open. -/
def unorderedKind : Received Event → Option String
  | .event (.nodeRemoved _) => some "node_removed"
  | .event (.distanceChanged ..) => some "distance_changed"
  | _ => none

def addressKey : Received Event → List Nat
  | .event e => e.address.key
  | _ => []

/-- Puts the run that was collected, latest first, in the order of addresses. -/
def orderedRun (latestFirst : List (Received Event)) : List (Received Event) :=
  latestFirst.reverse.mergeSort fun a b => decide (¬ addressKey b < addressKey a)

/-- Sorts every longest run of events of one kind whose order is left open. -/
def canonicalFrom (kind : Option String) (held : List (Received Event)) :
    List (Received Event) → List (Received Event)
  | [] => orderedRun held
  | r :: rest =>
    match unorderedKind r with
    | none => orderedRun held ++ r :: canonicalFrom none [] rest
    | some k =>
      if kind = some k then canonicalFrom kind (r :: held) rest
      else orderedRun held ++ canonicalFrom (some k) [r] rest

def canonical (received : List (Received Event)) : List (Received Event) :=
  canonicalFrom none [] received

inductive BusCommand where
  | subscribe
  | publish (event : Event)
  /-- One added node after another, at consecutive ports of one address. -/
  | publishMany (start finish : Nat)
  | info
  | drop (subscriber : Nat)
  | dropBus
  | recv (subscriber : Nat)
  | drain (subscriber : Nat)

namespace BusSession

abbrev Bus := EventBus Event

def info (b : Bus) : Json :=
  .object [("capacity", .nat b.capacity), ("subscribers", .nat b.subscribers)]

def whileOpen (b : Bus) (f : Bus → Json × Bus) : Json × Bus :=
  if b.isOpen then f b else (.text "bus dropped", b)

def portEvent (port : Nat) : Event := .nodeAdded (.v4 ⟨10, 0, 0, 1⟩ port.toUInt16)

def publishMany (b : Bus) (ports : List Nat) : Nat × Bus :=
  ports.foldl (fun s port => s.2.publish (portEvent port)) (0, b)

def step (b : Bus) : BusCommand → Json × Bus
  | .subscribe => whileOpen b fun b => let (n, b) := b.subscribe; (.nat n, b)
  | .publish e => whileOpen b fun b => let (n, b) := b.publish e; (.nat n, b)
  | .publishMany start finish => whileOpen b fun b =>
    let (n, b) := publishMany b (List.range' start (finish + 1 - start))
    (.nat n, b)
  | .info => whileOpen b fun b => (info b, b)
  | .drop subscriber => (.null, b.unsubscribe subscriber)
  | .dropBus => (.null, b.close)
  | .recv subscriber => let (r, b) := b.receive subscriber; (receivedJson r, b)
  | .drain subscriber =>
    match b.cursors.get? subscriber with
    | none => (.text "dropped", b)
    | some _ =>
      let (rs, b) := b.receiveAll subscriber
      (.list ((canonical rs).map receivedJson), b)

def run (b : Bus) : List BusCommand → List Json
  | [] => []
  | command :: rest =>
    let (reply, b) := step b command
    reply :: run b rest

/-- A session over a bus of its own, if there can be one of that capacity. -/
def answer (capacity : Nat) (commands : List BusCommand) : Json :=
  if EventBus.admits capacity then .list (run (.ofCapacity capacity) commands) else panicJson

end BusSession
end ClusterDriver.Scenario
