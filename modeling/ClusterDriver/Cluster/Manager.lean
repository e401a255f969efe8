import ClusterDriver.Cluster.Task
import ClusterDriver.Cluster.Topology
/-!
# Metadata manager

The node table under the care of a coordination task. Reads see the table as it is; every change is
a job.
-/
namespace ClusterDriver

/-- Where the manager publishes, by its place in the order in which buses were made. -/
abbrev BusId := Nat

/-- What jobs work on: the node table, the names under which callers keep descriptors, and what jobs
report. -/
structure Ledger where
  table : NodeTable := {}
  bookmarks : Table String NodeId := .empty
  notes : List String := []

namespace Ledger

def bookmark (l : Ledger) (name : Option String) (id : NodeId) : Ledger :=
  match name with
  | none => l
  | some name => { l with bookmarks := l.bookmarks.insert name id }

def note (l : Ledger) (line : String) : Ledger := { l with notes := l.notes ++ [line] }

def change (l : Ledger) (f : NodeTable → NodeTable) : Ledger := { l with table := f l.table }

end Ledger

abbrev AdminJob := Job Ledger (List Json)

structure Manager where
  coordination : Coordination String Ledger (List Json)
  bus : BusId

namespace Manager

def ofFactory (factory : MetricsFactory) (bus : BusId) : Manager where
  coordination := { task := { state := { table := { factory } } } }
  bus

def ledger (m : Manager) : Ledger := m.coordination.task.state

def table (m : Manager) : NodeTable := m.ledger.table

def isRunning (m : Manager) : Bool := m.coordination.task.accepting

def call (m : Manager) (caller : String) (c : Call Ledger (List Json)) :
    Option (Except AccessError (Reply (List Json))) × Manager :=
  let (result, coordination) := m.coordination.callAndSettle caller c
  (result, { m with coordination })

def jobOf (change : NodeTable → NodeTable) : AdminJob :=
  .work (·.change change) fun _ => .done []

/-- Runs a job and waits for what it computes from the table that it finds. -/
def perform {β : Type} (m : Manager) (caller : String) (f : NodeTable → β × NodeTable) :
    Except AccessError β × Manager :=
  let found := m.coordination.settle.task.state.table
  match m.call caller (.execute (jobOf fun t => (f t).2)) with
  | (some (.error e), m) => (.error e, m)
  | (_, m) => (.ok (f found).1, m)

/-- Queues a job. -/
def post (m : Manager) (caller : String) (f : NodeTable → NodeTable) :
    Except AccessError Unit × Manager :=
  match m.call caller (.submit (jobOf f)) with
  | (some (.error e), m) => (.error e, m)
  | (_, m) => (.ok (), m)

def addContactPoints (m : Manager) (caller : String) (addresses : List Endpoint) :
    Except AccessError (List NodeId) × Manager :=
  m.perform caller fun t => t.addContactPoints addresses

/-- The members stay readable. -/
def close (m : Manager) (caller : String) : Manager := (m.call caller .shutdown).2

def withLedger (m : Manager) (l : Ledger) : Manager :=
  { m with coordination := { m.coordination with task := { m.coordination.task with state := l } } }

/-- Takes what is to be published out of the table. -/
def takeOutbox (m : Manager) : List Event × Manager :=
  (m.table.outbox, m.withLedger (m.ledger.change fun t => { t with outbox := [] }))

def takeRecords (m : Manager) : List MetricRecord × Manager :=
  (m.table.records, m.withLedger (m.ledger.change fun t => { t with records := [] }))

def takeNotes (m : Manager) : List String × Manager :=
  (m.ledger.notes, m.withLedger { m.ledger with notes := [] })

def keep (m : Manager) (name : Option String) (id : NodeId) : Manager :=
  m.withLedger (m.ledger.bookmark name id)

end Manager
end ClusterDriver
