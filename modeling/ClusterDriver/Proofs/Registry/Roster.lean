import ClusterDriver.Proofs.Registry.Turns
/-!
# Roster

Who has claimed which cells, and who waits. A roster keeps of a machine only the place of every
thread, the status of every cell and the detector. `roster_turn` says that every action of a machine
is one of the few moves of its roster, so ownership and waiting are studied there.
-/
namespace ClusterDriver
open Function

/-- What the innermost request of a thread is about to do, apart from running a builder. -/
inductive Activity (C : Type) where
  | none
  /-- Its wait is registered. -/
  | waiting (cell : C)
  /-- It has claimed the cell, with its wait still registered. -/
  | claimed (cell : C)
  | cleared (cell : C)
  /-- It has published the innermost entered cell. -/
  | published

/-- The place of a thread: the cells that it has entered and not left, innermost first, and what it
is about to do. -/
structure Posture (C : Type) where
  entered : List C
  activity : Activity C

namespace Posture
variable {C : Type}

/-- The cell that the thread is registered to wait for. -/
def awaited? (p : Posture C) : Option C :=
  match p.activity with
  | .waiting c => some c
  | .claimed c => some c
  | _ => none

/-- The cells that the thread has claimed and not left. -/
def held (p : Posture C) : List C :=
  match p.activity with
  | .claimed c => c :: p.entered
  | .cleared c => c :: p.entered
  | _ => p.entered

/-- The cells that the thread has claimed and not published. -/
def building (p : Posture C) : List C :=
  match p.activity with
  | .published => p.entered.tail
  | _ => p.held

theorem held_of_mem_building {p : Posture C} {c : C} (h : c ∈ p.building) : c ∈ p.held := by
  cases hp : p.activity with
  | published =>
    simp only [building, hp] at h
    simpa only [held, hp] using List.mem_of_mem_tail h
  | none | waiting d | claimed d | cleared d => simpa only [building, hp] using h

theorem entered_suffix_held (p : Posture C) : p.entered <:+ p.held := by
  cases hp : p.activity with
  | claimed d | cleared d => simpa only [held, hp] using List.suffix_cons d p.entered
  | none | waiting d | published => simpa only [held, hp] using List.suffix_rfl

theorem held_of_mem_entered {p : Posture C} {c : C} (h : c ∈ p.entered) : c ∈ p.held :=
  p.entered_suffix_held.subset h

end Posture

structure Roster (T C : Type) where
  posture : T → Posture C
  status : C → CellStatus
  detector : Detector T C

/-- The moves of one thread. -/
inductive Roster.Move {T C : Type} [DecidableEq T] [DecidableEq C] (t : T) (s : Roster T C) :
    Roster T C → Prop
  | pass : Move t s s
  | wait {cells c detector} (here : s.posture t = ⟨cells, .none⟩)
      (allowed : s.detector.request t c = .ok detector) :
    Move t s { s with posture := update s.posture t ⟨cells, .waiting c⟩, detector }
  | release {cells c} (here : s.posture t = ⟨cells, .waiting c⟩) :
    Move t s { s with
      posture := update s.posture t ⟨cells, .none⟩
      detector := s.detector.stopWaiting t }
  | claim {cells c} (here : s.posture t = ⟨cells, .waiting c⟩) (free : s.status c = .empty) :
    Move t s { s with
      posture := update s.posture t ⟨cells, .claimed c⟩
      status := update s.status c .building }
  | clear {cells c} (here : s.posture t = ⟨cells, .claimed c⟩) :
    Move t s { s with
      posture := update s.posture t ⟨cells, .cleared c⟩
      detector := s.detector.stopWaiting t }
  | enter {cells c} (here : s.posture t = ⟨cells, .cleared c⟩) :
    Move t s { s with
      posture := update s.posture t ⟨c :: cells, .none⟩
      detector := s.detector.enter t c }
  | publish {cells c status} (here : s.posture t = ⟨c :: cells, .none⟩)
      (complete : status = .built ∨ status = .failed) :
    Move t s { s with
      posture := update s.posture t ⟨c :: cells, .published⟩
      status := update s.status c status }
  | leave {cells c} (here : s.posture t = ⟨c :: cells, .published⟩) :
    Move t s { s with
      posture := update s.posture t ⟨cells, .none⟩
      detector := s.detector.leave t c }

def Thread.posture {T C σ α : Type} : Thread T C σ α → Posture C
  | .run requests _ => ⟨requests.map Request.cell, .none⟩
  | .request stage r outer =>
    let cells := outer.map Request.cell
    match stage with
    | .check | .register => ⟨cells, .none⟩
    | .inspect | .served _ => ⟨cells, .waiting r.cell⟩
    | .claimed _ => ⟨cells, .claimed r.cell⟩
    | .cleared _ => ⟨cells, .cleared r.cell⟩
    | .ended _ => ⟨r.cell :: cells, .none⟩
    | .published _ => ⟨r.cell :: cells, .published⟩
  | .done _ => ⟨[], .none⟩

namespace Machine
variable {T C σ α : Type} [DecidableEq T] [DecidableEq C]

def posture (m : Machine T C σ α) (t : T) : Posture C :=
  ((m.threads.get? t).map Thread.posture).getD ⟨[], .none⟩

def roster (m : Machine T C σ α) : Roster T C where
  posture := m.posture
  status c := (m.content c).status
  detector := m.detector

variable {m m' : Machine T C σ α} {t : T}

omit [DecidableEq C] in
theorem posture_of_get? {thread : Thread T C σ α} (h : m.threads.get? t = some thread) :
    m.posture t = thread.posture := by
  simp [posture, h]

omit [DecidableEq C] in
theorem posture_setThread (m : Machine T C σ α) (t : T) (thread : Thread T C σ α) :
    (m.setThread t thread).posture = update m.posture t thread.posture := by
  funext u
  by_cases hu : u = t
  · subst hu
    simp [posture, setThread]
  · simp [posture, setThread, Table.get?_insert_of_ne _ (Ne.symm hu), hu]

theorem roster_setCell (m : Machine T C σ α) (c : C) (cell : Cell T C σ α) :
    (m.setCell c cell).roster =
      { m.roster with status := update m.roster.status c cell.content.status } := by
  have hstatus : (m.setCell c cell).roster.status =
      update m.roster.status c cell.content.status := by
    funext d
    by_cases hd : d = c
    · subst hd
      simp [roster, content, setCell]
    · simp [roster, content, setCell, hd]
  rw [← hstatus]
  rfl

omit [DecidableEq C] in
theorem roster_setThread (m : Machine T C σ α) (t : T) (thread : Thread T C σ α) :
    (m.setThread t thread).roster =
      { m.roster with posture := update m.roster.posture t thread.posture } := by
  simp only [roster, posture_setThread]
  rfl

/-- A thread that goes on in the same posture, while nothing else on the roster changes. -/
theorem move_setThread {n : Machine T C σ α} {thread : Thread T C σ α}
    (elsewhere : n.roster = m.roster) (same : thread.posture = m.roster.posture t) :
    Roster.Move t m.roster (n.setThread t thread).roster := by
  have unchanged : (n.setThread t thread).roster = m.roster := by
    rw [roster_setThread, elsewhere, same, update_eq_self]
  rw [unchanged]
  exact .pass

omit [DecidableEq T] in
theorem status_replace (m : Machine T C σ α) (c : C) (builder : Program T C σ α) (d : C) :
    ((m.replace c builder).2.content d).status = (m.content d).status := by
  cases hc : m.cells c with
  | empty old =>
    by_cases hd : d = c
    · subst hd
      simp [replace, hc, content, setCell, Cell.content, Content.status]
    · simp [replace, hc, content, setCell, hd]
  | building | built _ | failed _ => simp [replace, hc]

omit [DecidableEq T] in
theorem replace_threads (m : Machine T C σ α) (c : C) (builder : Program T C σ α) :
    (m.replace c builder).2.threads = m.threads := by
  cases hc : m.cells c <;> simp [replace, hc, setCell]

omit [DecidableEq T] in
theorem replace_detector (m : Machine T C σ α) (c : C) (builder : Program T C σ α) :
    (m.replace c builder).2.detector = m.detector := by
  cases hc : m.cells c <;> simp [replace, hc, setCell]

theorem roster_replace (m : Machine T C σ α) (c : C) (builder : Program T C σ α) :
    (m.replace c builder).2.roster = m.roster := by
  have hposture : (m.replace c builder).2.posture = m.posture := by
    funext u
    simp only [posture, replace_threads]
  simp only [roster, hposture, status_replace, replace_detector]

omit [DecidableEq T] [DecidableEq C] in
theorem status_settled (m : Machine T C σ α) (c : C) (outcome : Outcome AccessError α) :
    (m.settled c outcome).content.status = .built ∨
      (m.settled c outcome).content.status = .failed := by
  cases outcome with
  | panicked => exact Or.inr rfl
  | returned result =>
    cases result with
    | ok value => exact Or.inl rfl
    | error e => exact Or.inr rfl

omit [DecidableEq T] [DecidableEq C] in
theorem posture_ended (m : Machine T C σ α) (outcome : Outcome Failure α)
    (requests : List (Request T C σ α)) :
    (m.ended outcome requests).posture = ⟨requests.map Request.cell, .none⟩ := by
  cases requests <;> rfl

/-- Every action of a machine is a move of its roster. -/
theorem roster_turn {thread : Thread T C σ α} (found : m.threads.get? t = some thread)
    (turn : Turn m t thread m') : Roster.Move t m.roster m'.roster := by
  have here : m.roster.posture t = thread.posture := posture_of_get? found
  cases turn with
  | conclude ends => exact move_setThread rfl ((posture_ended m _ _).trans here.symm)
  | ask | look | stack | update | await _ | reuse _ | approach _ | refuse _ | serve _ =>
    exact move_setThread rfl here.symm
  | replace => exact move_setThread (roster_replace m _ _) here.symm
  | wait allowed =>
    rw [roster_setThread]
    exact .wait here allowed
  | @claim r outer builder free =>
    have empty : m.roster.status r.cell = .empty := by
      simp [roster, content, free, Cell.content, Content.status]
    rw [roster_setThread, roster_setCell]
    exact .claim here empty
  | release =>
    rw [roster_setThread]
    exact .release here
  | clear =>
    rw [roster_setThread]
    exact .clear here
  | enter =>
    rw [roster_setThread]
    exact .enter here
  | @publish r outer outcome =>
    rw [roster_setThread, roster_setCell]
    exact .publish here (status_settled m r.cell outcome)
  | leave =>
    rw [roster_setThread]
    exact .leave here
  | unwind =>
    rw [roster_setThread]
    exact .leave here

theorem posture_turn {thread : Thread T C σ α} (turn : Turn m t thread m') {u : T} (hu : u ≠ t) :
    m'.posture u = m.posture u := by
  simp only [posture, threads_turn turn hu]

end Machine
end ClusterDriver
