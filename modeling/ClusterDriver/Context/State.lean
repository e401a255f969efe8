import ClusterDriver.Context.Component
/-!
# Shared state of a context

What all threads of a context share, apart from the cells: whether it is closed, the event buses and
metadata managers that were made, and what builders reported.
-/
namespace ClusterDriver

structure ContextState where
  closed : Bool := false
  buses : List (EventBus Event) := []
  managers : List Manager := []
  /-- Lines with the thread that reported them, the newest last. -/
  journal : List (String × String) := []

namespace ContextState

def report (s : ContextState) (thread line : String) : ContextState :=
  { s with journal := s.journal ++ [(thread, line)] }

def addBus (s : ContextState) (capacity : Nat) : ContextState :=
  { s with buses := s.buses ++ [.ofCapacity capacity] }

def addManager (s : ContextState) (factory : MetricsFactory) (bus : BusId) : ContextState :=
  { s with managers := s.managers ++ [.ofFactory factory bus] }

def onBus {β : Type} (s : ContextState) (id : BusId) (f : EventBus Event → β × EventBus Event) :
    Option β × ContextState :=
  match s.buses[id]? with
  | none => (none, s)
  | some bus =>
    let (b, bus) := f bus
    (some b, { s with buses := s.buses.set id bus })

/-- Acts on a manager; what it has to publish goes to its bus. -/
def onManager {β : Type} (s : ContextState) (id : ManagerId) (f : Manager → β × Manager) :
    Option β × ContextState :=
  match s.managers[id]? with
  | none => (none, s)
  | some manager =>
    let (b, manager) := f manager
    let (events, manager) := manager.takeOutbox
    let s := { s with managers := s.managers.set id manager }
    (some b, (s.onBus manager.bus fun bus => ((), bus.publishAll events)).2)

def closeManager (s : ContextState) (thread : String) (id : ManagerId) : ContextState :=
  (s.onManager id fun m => ((), m.close thread)).2

end ContextState
end ClusterDriver
