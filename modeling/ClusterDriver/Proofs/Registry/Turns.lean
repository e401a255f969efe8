import ClusterDriver.Registry.Schedule
import Mathlib.Logic.Function.Basic
/-!
# Turns

What one action of one thread can be, with the place of the thread before it and the machine after
it. `turn_of_step` says that there is nothing else, so a proof about a step is a proof about each
turn.
-/
namespace ClusterDriver

/-- How a program ends that has nothing left to do. -/
def Program.outcome? {T C σ α : Type} : Program T C σ α → Option (Outcome Failure α)
  | .ok value => some (.returned (.ok value))
  | .fail failure => some (.returned (.error failure))
  | .panic => some .panicked
  | _ => none

namespace Machine
variable {T C σ α : Type} [DecidableEq T] [DecidableEq C]

inductive Turn (m : Machine T C σ α) (t : T) : Thread T C σ α → Machine T C σ α → Prop
  | conclude {requests program outcome} (ends : program.outcome? = some outcome) :
    Turn m t (.run requests program) (m.setThread t (m.ended outcome requests))
  | ask {requests cell next} :
    Turn m t (.run requests (.get cell next))
      (m.setThread t (.request .check ⟨cell, next⟩ requests))
  | look {requests cell next} :
    Turn m t (.run requests (.look cell next))
      (m.setThread t (.run requests (next (m.content cell))))
  | replace {requests cell builder next} :
    Turn m t (.run requests (.replace cell builder next))
      ((m.replace cell builder).2.setThread t
        (.run requests (next (m.replace cell builder).1)))
  | stack {requests next} :
    Turn m t (.run requests (.stack next))
      (m.setThread t (.run requests (next (m.detector.stack t))))
  | update {requests change next} :
    Turn m t (.run requests (.update change next))
      ({ m with shared := change t m.shared }.setThread t (.run requests (next t m.shared)))
  | await {requests gate next} (isOpen : gate ∈ m.gates) :
    Turn m t (.run requests (.await gate next)) (m.setThread t (.run requests next))
  /-- The cell was complete when it was asked for. -/
  | reuse {r outer result} (complete : (m.content r.cell).outcome? = some result) :
    Turn m t (.request .check r outer) (m.setThread t (.run outer (r.next result)))
  | approach {r outer} (incomplete : (m.content r.cell).outcome? = none) :
    Turn m t (.request .check r outer) (m.setThread t (.request .register r outer))
  | refuse {r outer chain} (refused : m.detector.request t r.cell = .error chain) :
    Turn m t (.request .register r outer)
      (m.setThread t (.run outer (r.next (.error (.cycle (chain.map m.label))))))
  | wait {r outer detector} (allowed : m.detector.request t r.cell = .ok detector) :
    Turn m t (.request .register r outer)
      ({ m with detector }.setThread t (.request .inspect r outer))
  | serve {r outer result} (complete : (m.content r.cell).outcome? = some result) :
    Turn m t (.request .inspect r outer) (m.setThread t (.request (.served result) r outer))
  | claim {r outer builder} (free : m.cells r.cell = .empty builder) :
    Turn m t (.request .inspect r outer)
      ((m.setCell r.cell .building).setThread t (.request (.claimed builder) r outer))
  | release {r outer result} :
    Turn m t (.request (.served result) r outer)
      ({ m with detector := m.detector.stopWaiting t }.setThread t (.run outer (r.next result)))
  | clear {r outer builder} :
    Turn m t (.request (.claimed builder) r outer)
      ({ m with detector := m.detector.stopWaiting t }.setThread t
        (.request (.cleared builder) r outer))
  | enter {r outer builder} :
    Turn m t (.request (.cleared builder) r outer)
      ({ m with detector := m.detector.enter t r.cell }.setThread t (.run (r :: outer) builder))
  | publish {r outer outcome} :
    Turn m t (.request (.ended outcome) r outer)
      ((m.setCell r.cell (m.settled r.cell outcome)).setThread t
        (.request (.published outcome) r outer))
  | leave {r outer result} :
    Turn m t (.request (.published (.returned result)) r outer)
      ({ m with detector := m.detector.leave t r.cell }.setThread t (.run outer (r.next result)))
  | unwind {r outer} :
    Turn m t (.request (.published .panicked) r outer)
      ({ m with detector := m.detector.leave t r.cell }.setThread t (.run outer .panic))

variable {m m' : Machine T C σ α} {t : T}

theorem turn_of_runStep {requests : List (Request T C σ α)} {program : Program T C σ α}
    (h : m.runStep t requests program = some m') : Turn m t (.run requests program) m' := by
  cases program with
  | ok value => exact Option.some.inj h ▸ .conclude rfl
  | fail failure => exact Option.some.inj h ▸ .conclude rfl
  | panic => exact Option.some.inj h ▸ .conclude rfl
  | get cell next => exact Option.some.inj h ▸ .ask
  | look cell next => exact Option.some.inj h ▸ .look
  | replace cell builder next => exact Option.some.inj h ▸ .replace
  | stack next => exact Option.some.inj h ▸ .stack
  | update change next => exact Option.some.inj h ▸ .update
  | await gate next =>
    by_cases isOpen : gate ∈ m.gates
    · have heq : m.setThread t (.run requests next) = m' := by simpa [runStep, isOpen] using h
      exact heq ▸ .await isOpen
    · simp [runStep, isOpen] at h

theorem turn_of_requestStep {r : Request T C σ α} {outer : List (Request T C σ α)}
    {stage : Stage T C σ α} (h : m.requestStep t r outer stage = some m') :
    Turn m t (.request stage r outer) m' := by
  cases stage with
  | check =>
    cases hc : (m.content r.cell).outcome? with
    | some result => exact (by simpa [requestStep, hc] using h) ▸ .reuse hc
    | none => exact (by simpa [requestStep, hc] using h) ▸ .approach hc
  | register =>
    cases hd : m.detector.request t r.cell with
    | error chain => exact (by simpa [requestStep, hd] using h) ▸ .refuse hd
    | ok detector => exact (by simpa [requestStep, hd] using h) ▸ .wait hd
  | inspect =>
    cases hc : m.cells r.cell with
    | built value =>
      exact (by simpa [requestStep, hc] using h) ▸
        .serve (by simp [content, hc, Cell.content, Content.outcome?])
    | failed error =>
      exact (by simpa [requestStep, hc] using h) ▸
        .serve (by simp [content, hc, Cell.content, Content.outcome?])
    | building => simp [requestStep, hc] at h
    | empty builder => exact (by simpa [requestStep, hc] using h) ▸ .claim hc
  | served result => exact Option.some.inj h ▸ .release
  | claimed builder => exact Option.some.inj h ▸ .clear
  | cleared builder => exact Option.some.inj h ▸ .enter
  | ended outcome => exact Option.some.inj h ▸ .publish
  | published outcome =>
    cases outcome with
    | returned result => exact Option.some.inj h ▸ .leave
    | panicked => exact Option.some.inj h ▸ .unwind

/-- An action is one of the turns, of a thread at the place where the turn begins. -/
theorem turn_of_step (h : m.step t = some m') :
    ∃ thread, m.threads.get? t = some thread ∧ Turn m t thread m' := by
  cases hthread : m.threads.get? t with
  | none => simp [step, hthread] at h
  | some thread =>
    cases thread with
    | run requests program =>
      exact ⟨_, rfl, turn_of_runStep (by simpa [step, hthread] using h)⟩
    | request stage r outer =>
      exact ⟨_, rfl, turn_of_requestStep (by simpa [step, hthread] using h)⟩
    | done outcome => simp [step, hthread] at h

/-- A turn leaves all other threads where they are. -/
theorem threads_turn {thread : Thread T C σ α} (turn : Turn m t thread m') {u : T} (hu : u ≠ t) :
    m'.threads.get? u = m.threads.get? u := by
  cases turn with
  | @replace requests cell builder next =>
    cases hcell : m.cells cell <;>
      simp [setThread, setCell, Machine.replace, hcell, Table.get?_insert_of_ne _ (Ne.symm hu)]
  | conclude | ask | look | stack | update | await | reuse | approach | refuse | wait | serve
  | claim | release | clear | enter | publish | leave | unwind =>
    simp [setThread, setCell, Table.get?_insert_of_ne _ (Ne.symm hu)]

theorem label_turn {thread : Thread T C σ α} (turn : Turn m t thread m') : m'.label = m.label := by
  cases turn with
  | @replace requests cell builder next =>
    cases hcell : m.cells cell <;> simp [setThread, setCell, Machine.replace, hcell]
  | conclude | ask | look | stack | update | await | reuse | approach | refuse | wait | serve
  | claim | release | clear | enter | publish | leave | unwind => rfl

theorem isEnabled_turn {thread : Thread T C σ α} (turn : Turn m t thread m') :
    m'.detector.isEnabled = m.detector.isEnabled := by
  cases turn with
  | @replace requests cell builder next =>
    cases hcell : m.cells cell <;> simp [setThread, setCell, Machine.replace, hcell]
  | @wait r outer detector allowed =>
    change detector.isEnabled = m.detector.isEnabled
    unfold Detector.request at allowed
    split at allowed
    · split at allowed
      · cases allowed
      · obtain rfl := Except.ok.inj allowed
        rfl
    · obtain rfl := Except.ok.inj allowed
      rfl
  | release | clear =>
    change (m.detector.stopWaiting t).isEnabled = _
    unfold Detector.stopWaiting
    split <;> rfl
  | @enter r _ _ =>
    change (m.detector.enter t r.cell).isEnabled = _
    unfold Detector.enter
    split <;> rfl
  | @leave r _ _ | @unwind r _ =>
    change (m.detector.leave t r.cell).isEnabled = _
    unfold Detector.leave
    split <;> rfl
  | conclude | ask | look | stack | update | await | reuse | approach | refuse | serve | claim
  | publish => rfl

omit [DecidableEq C] in
theorem get?_setThread_self {thread new : Thread T C σ α}
    (h : (m.setThread t thread).threads.get? t = some new) : thread = new := by
  simpa [setThread] using h

theorem present_of_turn {thread : Thread T C σ α} (turn : Turn m t thread m') :
    ∃ new, m'.threads.get? t = some new := by
  cases turn <;> exact ⟨_, Table.get?_insert_self _ _ _⟩

/-- What holds of the other threads and of the one that acted holds of all. -/
theorem forall_threads_turn {P : Thread T C σ α → Prop} {thread : Thread T C σ α}
    (turn : Turn m t thread m')
    (others : ∀ u other, u ≠ t → m.threads.get? u = some other → P other)
    (here : ∀ new, m'.threads.get? t = some new → P new) :
    ∀ u other, m'.threads.get? u = some other → P other := by
  intro u other hother
  by_cases hu : u = t
  · subst hu
    exact here other hother
  · exact others u other hu (threads_turn turn hu ▸ hother)

end Machine
end ClusterDriver
