import ClusterDriver.Proofs.Registry.Progress
/-!
# Views

A machine whose programs are shown a view of the shared state. As long as the view is the state that
is there, the machine runs as the one without the view does, step by step. So what programs would do
in states that never come about does not matter.
-/
namespace ClusterDriver
variable {T C σ α : Type} {view : σ → σ}

/-- The program that goes on with the view where this one goes on with the state. -/
def Program.seeing (view : σ → σ) : Program T C σ α → Program T C σ α
  | .ok value => .ok value
  | .fail failure => .fail failure
  | .panic => .panic
  | .get cell next => .get cell fun result => (next result).seeing view
  | .look cell next => .look cell fun content => (next content).seeing view
  | .replace cell builder next =>
    .replace cell (builder.seeing view) fun installed => (next installed).seeing view
  | .stack next => .stack fun cells => (next cells).seeing view
  | .update change next => .update change fun thread s => (next thread (view s)).seeing view
  | .await gate next => .await gate (next.seeing view)

def Cell.seeing (view : σ → σ) : Cell T C σ α → Cell T C σ α
  | .empty builder => .empty (builder.seeing view)
  | .building => .building
  | .built value => .built value
  | .failed error => .failed error

def Request.seeing (view : σ → σ) (r : Request T C σ α) : Request T C σ α where
  cell := r.cell
  next result := (r.next result).seeing view

def Stage.seeing (view : σ → σ) : Stage T C σ α → Stage T C σ α
  | .claimed builder => .claimed (builder.seeing view)
  | .cleared builder => .cleared (builder.seeing view)
  | .check => .check
  | .register => .register
  | .inspect => .inspect
  | .served result => .served result
  | .ended outcome => .ended outcome
  | .published outcome => .published outcome

def Thread.seeing (view : σ → σ) : Thread T C σ α → Thread T C σ α
  | .run requests program => .run (requests.map (Request.seeing view)) (program.seeing view)
  | .request stage r outer =>
    .request (stage.seeing view) (r.seeing view) (outer.map (Request.seeing view))
  | .done outcome => .done outcome

theorem Program.Within.seeing {allowed : Program T C σ α → Prop}
    (kept : ∀ p, allowed p → allowed (p.seeing view)) {p : Program T C σ α}
    (h : p.Within allowed) : (p.seeing view).Within allowed := by
  induction p with
  | ok _ | fail _ | panic => exact kept _ h
  | get _ _ ih => exact ⟨kept _ h.1, fun result => ih result (h.2 result)⟩
  | look _ _ ih => exact ⟨kept _ h.1, fun content => ih content (h.2 content)⟩
  | replace _ _ _ ihb ih =>
    exact ⟨kept _ h.1, ihb h.2.1, fun installed => ih installed (h.2.2 installed)⟩
  | stack _ ih => exact ⟨kept _ h.1, fun cells => ih cells (h.2 cells)⟩
  | update _ _ ih =>
    exact ⟨kept _ h.1, fun thread shared => ih thread (view shared) (h.2 thread (view shared))⟩
  | await _ _ ih => exact ⟨kept _ h.1, ih h.2⟩

@[simp] theorem Cell.content_seeing (cell : Cell T C σ α) :
    (cell.seeing view).content = cell.content := by
  cases cell <;> rfl

namespace Machine
variable [DecidableEq T] [DecidableEq C] {m m₀ : Machine T C σ α} {t : T} {c : C}

def seeing (view : σ → σ) (m : Machine T C σ α) : Machine T C σ α :=
  { m with
    cells := fun c => (m.cells c).seeing view
    threads := m.threads.map (Thread.seeing view) }

omit [DecidableEq T] [DecidableEq C] in
@[simp] theorem content_seeing : (m.seeing view).content c = m.content c :=
  (m.cells c).content_seeing

omit [DecidableEq C] in
@[simp] theorem get?_seeing :
    (m.seeing view).threads.get? t = (m.threads.get? t).map (Thread.seeing view) :=
  Table.get?_map _ _ _

omit [DecidableEq C] in
theorem seeing_setThread (thread : Thread T C σ α) :
    (m.setThread t thread).seeing view = (m.seeing view).setThread t (thread.seeing view) := by
  simp [seeing, setThread, Table.map_insert]

omit [DecidableEq T] in
theorem seeing_setCell (cell : Cell T C σ α) :
    (m.setCell c cell).seeing view = (m.seeing view).setCell c (cell.seeing view) := by
  simp only [seeing, setCell, Machine.mk.injEq, and_true, true_and]
  funext d
  split <;> rfl

omit [DecidableEq T] [DecidableEq C] in
theorem seeing_ended (outcome : Outcome Failure α) (requests : List (Request T C σ α)) :
    (m.ended outcome requests).seeing view =
      (m.seeing view).ended outcome (requests.map (Request.seeing view)) := by
  cases requests <;> rfl

omit [DecidableEq T] [DecidableEq C] in
theorem seeing_settled (outcome : Outcome AccessError α) :
    (m.settled c outcome).seeing view = (m.seeing view).settled c outcome := by
  cases outcome with
  | returned result => cases result <;> rfl
  | panicked => rfl

omit [DecidableEq T] in
theorem seeing_replace (builder : Program T C σ α) :
    (m.seeing view).replace c (builder.seeing view) =
      ((m.replace c builder).1, (m.replace c builder).2.seeing view) := by
  have cell : (m.seeing view).cells c = (m.cells c).seeing view := rfl
  cases hcell : m.cells c with
  | empty old => simp [replace, cell, hcell, Cell.seeing, seeing_setCell]
  | building | built _ | failed _ => simp [replace, cell, hcell, Cell.seeing]

omit [DecidableEq C] in
/-- A thread that goes on does so under the view too. -/
theorem goesOn_seeing (view : σ → σ) (m : Machine T C σ α) (t : T) (thread : Thread T C σ α) :
    some ((m.seeing view).setThread t (thread.seeing view)) =
      (some (m.setThread t thread)).map (seeing view) :=
  congrArg some (seeing_setThread thread).symm

theorem runStep_seeing (same : view m.shared = m.shared) (requests : List (Request T C σ α))
    (program : Program T C σ α) :
    (m.seeing view).runStep t (requests.map (Request.seeing view)) (program.seeing view) =
      (m.runStep t requests program).map (seeing view) := by
  cases program with
  | ok value | fail failure | panic =>
    simp only [Program.seeing, runStep, ← seeing_ended]
    exact goesOn_seeing view m t _
  | get cell next => exact goesOn_seeing view m t (.request .check ⟨cell, next⟩ requests)
  | look cell next =>
    simp only [Program.seeing, runStep, content_seeing]
    exact goesOn_seeing view m t (.run requests (next (m.content cell)))
  | replace cell builder next =>
    simp only [Program.seeing, runStep, seeing_replace]
    exact goesOn_seeing view _ t (.run requests (next (m.replace cell builder).1))
  | stack next => exact goesOn_seeing view m t (.run requests (next (m.detector.stack t)))
  | update change next =>
    have shown : view (m.seeing view).shared = m.shared := same
    simp only [Program.seeing, runStep, shown]
    exact goesOn_seeing view { m with shared := change t m.shared } t
      (.run requests (next t m.shared))
  | await gate next =>
    by_cases isOpen : gate ∈ m.gates
    · have isOpen' : gate ∈ (m.seeing view).gates := isOpen
      simp only [Program.seeing, runStep, isOpen, isOpen', if_true]
      exact goesOn_seeing view m t (.run requests next)
    · have shut : gate ∉ (m.seeing view).gates := isOpen
      simp [Program.seeing, runStep, isOpen, shut]

theorem requestStep_seeing (r : Request T C σ α) (outer : List (Request T C σ α))
    (stage : Stage T C σ α) :
    (m.seeing view).requestStep t (r.seeing view) (outer.map (Request.seeing view))
        (stage.seeing view) =
      (m.requestStep t r outer stage).map (seeing view) := by
  cases stage with
  | check =>
    simp only [Stage.seeing, requestStep, Request.seeing, content_seeing]
    cases (m.content r.cell).outcome? with
    | some result => exact goesOn_seeing view m t (.run outer (r.next result))
    | none => exact goesOn_seeing view m t (.request .register r outer)
  | register =>
    have detector : (m.seeing view).detector = m.detector := rfl
    simp only [Stage.seeing, requestStep, Request.seeing, detector]
    cases m.detector.request t r.cell with
    | error chain =>
      exact goesOn_seeing view m t (.run outer (r.next (.error (.cycle (chain.map m.label)))))
    | ok detector => exact goesOn_seeing view { m with detector } t (.request .inspect r outer)
  | inspect =>
    have cell : (m.seeing view).cells r.cell = (m.cells r.cell).seeing view := rfl
    simp only [Stage.seeing, requestStep, Request.seeing, cell]
    cases m.cells r.cell with
    | built value => exact goesOn_seeing view m t (.request (.served (.ok value)) r outer)
    | failed error => exact goesOn_seeing view m t (.request (.served (.error error)) r outer)
    | building => rfl
    | empty builder =>
      have claimed := goesOn_seeing view (m.setCell r.cell .building) t
        (.request (.claimed builder) r outer)
      rwa [seeing_setCell] at claimed
  | served result =>
    exact goesOn_seeing view { m with detector := m.detector.stopWaiting t } t
      (.run outer (r.next result))
  | claimed builder =>
    exact goesOn_seeing view { m with detector := m.detector.stopWaiting t } t
      (.request (.cleared builder) r outer)
  | cleared builder =>
    exact goesOn_seeing view { m with detector := m.detector.enter t r.cell } t
      (.run (r :: outer) builder)
  | ended outcome =>
    have published := goesOn_seeing view (m.setCell r.cell (m.settled r.cell outcome)) t
      (.request (.published outcome) r outer)
    rwa [seeing_setCell, seeing_settled] at published
  | published outcome =>
    cases outcome with
    | returned result =>
      exact goesOn_seeing view { m with detector := m.detector.leave t r.cell } t
        (.run outer (r.next result))
    | panicked =>
      exact goesOn_seeing view { m with detector := m.detector.leave t r.cell } t
        (.run outer .panic)

theorem step_seeing (same : view m.shared = m.shared) :
    (m.seeing view).step t = (m.step t).map (seeing view) := by
  unfold step
  rw [get?_seeing]
  cases m.threads.get? t with
  | none => rfl
  | some thread =>
    cases thread with
    | run requests program => exact runStep_seeing same requests program
    | request stage r outer => exact requestStep_seeing r outer stage
    | done outcome => rfl

/-- The view makes no difference to a run in which it always shows the state that is there. -/
theorem runSchedule_seeing {schedule : List T}
    (same : ∀ before, before <+: schedule →
      view (m₀.runSchedule before).shared = (m₀.runSchedule before).shared) :
    (m₀.seeing view).runSchedule schedule = (m₀.runSchedule schedule).seeing view := by
  induction schedule using List.reverseRecOn with
  | nil => rfl
  | append_singleton before t ih =>
    have earlier := ih fun first short => same first (short.trans (List.prefix_append _ _))
    have here := same before (List.prefix_append _ _)
    rw [runSchedule_concat, runSchedule_concat, earlier, step_seeing here]
    cases (m₀.runSchedule before).step t <;> rfl

omit [DecidableEq C] in
theorem Fresh.seeing (fresh : m.Fresh) : (m.seeing view).Fresh where
  cells c := by
    obtain ⟨builder, hc⟩ := fresh.cells c
    exact ⟨builder.seeing view, by simp [Machine.seeing, hc, Cell.seeing]⟩
  graph := fresh.graph
  threads t thread found := by
    rw [get?_seeing] at found
    obtain ⟨thread, before, rfl⟩ := Option.map_eq_some_iff.1 found
    obtain ⟨program, rfl⟩ := fresh.threads t thread before
    exact ⟨program.seeing view, rfl⟩

end Machine
end ClusterDriver
