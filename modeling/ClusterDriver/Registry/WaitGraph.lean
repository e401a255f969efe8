import ClusterDriver.Table
/-!
# Wait graph

Which thread builds which cell, which cell each thread waits for, and what each thread is building,
outermost first. A thread that asks for a cell closes a loop when it is building the cell itself, or
when the builders and their waits lead from the cell back to the thread. Nothing is assumed of the
three tables: the walk ends on any graph, because it stops at the first builder that it meets twice.
-/
namespace ClusterDriver

structure WaitGraph (T C : Type) where
  building : Table C T := .empty
  waiting : Table T C := .empty
  frames : Table T (List C) := .empty

namespace WaitGraph
variable {T C : Type} [DecidableEq T] [DecidableEq C]

def stack (g : WaitGraph T C) (t : T) : List C := (g.frames.get? t).getD []

/-- The part of a stack from the first occurrence of a cell. -/
def since (c : C) : List C → List C
  | [] => []
  | d :: rest => if d = c then d :: rest else since c rest

theorem length_filter_cons_lt {ts seen : List T} {t : T} (ht : t ∈ ts) (hs : t ∉ seen) :
    (ts.filter fun u => u ∉ t :: seen).length < (ts.filter fun u => u ∉ seen).length := by
  induction ts with
  | nil => cases ht
  | cons u ts ih =>
    have mono : (ts.filter fun v => v ∉ t :: seen).length ≤
        (ts.filter fun v => v ∉ seen).length := by
      apply List.Sublist.length_le
      have : (ts.filter fun v => v ∉ t :: seen) =
          (ts.filter fun v => v ∉ seen).filter fun v => v ∉ t :: seen := by
        rw [List.filter_filter]
        apply List.filter_congr
        intro v _
        by_cases hv : v = t <;> simp [hv]
      rw [this]
      exact List.filter_sublist
    by_cases hu : u = t
    · subst hu
      rw [List.filter_cons_of_neg (by simp), List.filter_cons_of_pos (by simpa using hs)]
      exact Nat.lt_succ_of_le mono
    · have htail : t ∈ ts := by
        rcases List.mem_cons.1 ht with h | h
        · exact absurd h.symm hu
        · exact h
      by_cases hseen : u ∈ seen
      · simpa [List.filter_cons, hseen] using ih htail
      · simpa [List.filter_cons, hseen, hu] using ih htail

/-- Follows the builders and their waits from `next`, the last cell of `path`, until it meets
`caller`; then the caller's cells since the one met, followed by the path. -/
def walk (g : WaitGraph T C) (caller : T) (path : List C) (seen : List T) (next : C) :
    Option (List C) :=
  match _ : g.building.get? next with
  | none => none
  | some builder =>
    if builder = caller then
      if next ∈ g.stack caller then some (since next (g.stack caller) ++ path) else none
    else if _ : builder ∈ seen then none
    else
      match g.waiting.get? builder with
      | none => none
      | some cell => g.walk caller (path ++ [cell]) (builder :: seen) cell
termination_by (g.building.values.filter fun u => u ∉ seen).length
decreasing_by
  exact length_filter_cons_lt (Table.mem_values_of_get? ‹_›) ‹_›

/-- The chain of cells that a wait of `caller` for `cell` would close, from a cell to itself. -/
def closing? (g : WaitGraph T C) (caller : T) (cell : C) : Option (List C) :=
  if cell ∈ g.stack caller then some (since cell (g.stack caller) ++ [cell])
  else g.walk caller [cell] [] cell

def wait (g : WaitGraph T C) (t : T) (cell : C) : WaitGraph T C :=
  { g with waiting := g.waiting.insert t cell }

def stopWaiting (g : WaitGraph T C) (t : T) : WaitGraph T C :=
  { g with waiting := g.waiting.erase t }

/-- `t` has become the builder of `cell`. -/
def enter (g : WaitGraph T C) (t : T) (cell : C) : WaitGraph T C where
  building := g.building.insert cell t
  waiting := g.waiting.erase t
  frames := g.frames.insert t (g.stack t ++ [cell])

/-- Without the last occurrence. -/
def removeLast (cell : C) (cells : List C) : List C := (cells.reverse.erase cell).reverse

/-- `t` is done with `cell`. An empty stack is not kept. -/
def leave (g : WaitGraph T C) (t : T) (cell : C) : WaitGraph T C where
  building := g.building.erase cell
  waiting := g.waiting
  frames :=
    match g.frames.get? t with
    | none => g.frames
    | some cells =>
      let rest := removeLast cell cells
      if rest.isEmpty then g.frames.erase t else g.frames.insert t rest

variable (g : WaitGraph T C) (t u : T) (c : C)

omit [DecidableEq C] in
@[simp] theorem building_wait : (g.wait t c).building = g.building := rfl

omit [DecidableEq C] in
@[simp] theorem stack_wait : (g.wait t c).stack u = g.stack u := rfl

omit [DecidableEq C] in
@[simp] theorem building_stopWaiting : (g.stopWaiting t).building = g.building := rfl

omit [DecidableEq C] in
@[simp] theorem stack_stopWaiting : (g.stopWaiting t).stack u = g.stack u := rfl

@[simp] theorem waiting_leave : (g.leave t c).waiting = g.waiting := rfl

theorem stack_enter :
    (g.enter t c).stack u = if u = t then g.stack t ++ [c] else g.stack u := by
  by_cases hu : u = t
  · subst hu
    simp [enter, stack]
  · simp [enter, stack, Table.get?_insert_of_ne _ (Ne.symm hu), hu]

theorem removeLast_append_self (cells : List C) : removeLast c (cells ++ [c]) = cells := by
  simp [removeLast]

theorem stack_leave :
    (g.leave t c).stack u = if u = t then removeLast c (g.stack t) else g.stack u := by
  cases hcells : g.frames.get? t with
  | none =>
    by_cases hu : u = t
    · subst hu
      simp [leave, stack, hcells, removeLast]
    · simp [leave, stack, hcells, hu]
  | some cells =>
    by_cases hu : u = t
    · subst hu
      by_cases hrest : removeLast c cells = []
      · simp [leave, stack, hcells, hrest]
      · simp [leave, stack, hcells, hrest]
    · by_cases hrest : removeLast c cells = []
      · simp [leave, stack, hcells, hrest, Table.get?_erase_of_ne _ (Ne.symm hu), hu]
      · simp [leave, stack, hcells, hrest, Table.get?_insert_of_ne _ (Ne.symm hu), hu]

end WaitGraph

/-- A wait graph that is kept only where detection is on. -/
structure Detector (T C : Type) where
  isEnabled : Bool
  graph : WaitGraph T C := {}

namespace Detector
variable {T C : Type} [DecidableEq T] [DecidableEq C]

/-- Before `t` may wait for `cell`: refused with the chain that it would close, else recorded. -/
def request (d : Detector T C) (t : T) (cell : C) : Except (List C) (Detector T C) :=
  if d.isEnabled then
    match d.graph.closing? t cell with
    | some chain => .error chain
    | none => .ok { d with graph := d.graph.wait t cell }
  else .ok d

def stopWaiting (d : Detector T C) (t : T) : Detector T C :=
  if d.isEnabled then { d with graph := d.graph.stopWaiting t } else d

def enter (d : Detector T C) (t : T) (cell : C) : Detector T C :=
  if d.isEnabled then { d with graph := d.graph.enter t cell } else d

def leave (d : Detector T C) (t : T) (cell : C) : Detector T C :=
  if d.isEnabled then { d with graph := d.graph.leave t cell } else d

def stack (d : Detector T C) (t : T) : List C := d.graph.stack t

end Detector
end ClusterDriver
