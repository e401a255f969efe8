import ClusterDriver.Registry.Machine
/-!
# Schedules

A run of a machine is a schedule: the threads in the order in which they act. `settle` is one fair
choice, good for observation between calls: it goes on with the first thread that can act until none
can.
-/
namespace ClusterDriver.Machine
variable {T C σ α : Type} [DecidableEq T] [DecidableEq C]

/-- The machine after a schedule. A thread that cannot act lets its turn pass. -/
def runSchedule (m : Machine T C σ α) (schedule : List T) : Machine T C σ α :=
  schedule.foldl (fun m t => (m.step t).getD m) m

/-- The first of some threads that can act, and the machine after it did. -/
def firstStep? (m : Machine T C σ α) : List T → Option (Machine T C σ α)
  | [] => none
  | t :: rest => match m.step t with
    | some m' => some m'
    | none => m.firstStep? rest

def settleWithin (fuel : Nat) (m : Machine T C σ α) : Machine T C σ α :=
  match fuel with
  | 0 => m
  | fuel + 1 =>
    match m.firstStep? m.threads.keys with
    | none => m
    | some m' => m'.settleWithin fuel

/-- Far more actions than threads take between two observations. -/
def patience : Nat := 1000000

def settle (m : Machine T C σ α) : Machine T C σ α := m.settleWithin patience

end ClusterDriver.Machine
