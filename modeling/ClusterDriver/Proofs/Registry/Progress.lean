import ClusterDriver.Proofs.Registry.Outcomes
/-!
# Progress

A thread that cannot act has ended, waits for a gate, or is blocked on a cell that is being built.
Where no program waits for gates, only the last of these remains.
-/
namespace ClusterDriver

namespace Program
variable {T C σ α : Type}

/-- Every action that the program may come to take is allowed. -/
def Within (allowed : Program T C σ α → Prop) : Program T C σ α → Prop
  | .ok value => allowed (.ok value)
  | .fail failure => allowed (.fail failure)
  | .panic => allowed .panic
  | .get cell next => allowed (.get cell next) ∧ ∀ result, (next result).Within allowed
  | .look cell next => allowed (.look cell next) ∧ ∀ content, (next content).Within allowed
  | .replace cell builder next =>
    allowed (.replace cell builder next) ∧ builder.Within allowed ∧
      ∀ installed, (next installed).Within allowed
  | .stack next => allowed (.stack next) ∧ ∀ cells, (next cells).Within allowed
  | .update change next =>
    allowed (.update change next) ∧ ∀ thread shared, (next thread shared).Within allowed
  | .await gate next => allowed (.await gate next) ∧ next.Within allowed

/-- Asking for cells is all that it may have to wait for. -/
def Ungated : Program T C σ α → Prop := Within fun p => ∀ gate next, p ≠ .await gate next

theorem Within.head {allowed : Program T C σ α → Prop} {p : Program T C σ α}
    (h : p.Within allowed) : allowed p := by
  cases p with
  | ok _ | fail _ | panic => exact h
  | get _ _ | look _ _ | replace _ _ _ | stack _ | update _ _ | await _ _ => exact h.1

theorem Within.mono {allowed allowed' : Program T C σ α → Prop} (sub : ∀ p, allowed p → allowed' p)
    {p : Program T C σ α} (h : p.Within allowed) : p.Within allowed' := by
  induction p with
  | ok _ | fail _ | panic => exact sub _ h
  | get _ _ ih => exact ⟨sub _ h.1, fun result => ih result (h.2 result)⟩
  | look _ _ ih => exact ⟨sub _ h.1, fun content => ih content (h.2 content)⟩
  | replace _ _ _ ihb ih =>
    exact ⟨sub _ h.1, ihb h.2.1, fun installed => ih installed (h.2.2 installed)⟩
  | stack _ ih => exact ⟨sub _ h.1, fun cells => ih cells (h.2 cells)⟩
  | update _ _ ih => exact ⟨sub _ h.1, fun thread shared => ih thread shared (h.2 thread shared)⟩
  | await _ _ ih => exact ⟨sub _ h.1, ih h.2⟩

theorem within_ask {allowed : Program T C σ α → Prop} {c : C} (get : allowed (ask c))
    (ok : ∀ value, allowed (.ok value)) (fail : ∀ failure, allowed (.fail failure)) :
    (ask c).Within allowed := by
  refine ⟨get, fun result => ?_⟩
  cases result with
  | ok value => exact ok value
  | error error => exact fail _

theorem ungated_ask (c : C) : (ask c : Program T C σ α).Ungated :=
  within_ask (fun _ _ heq => nomatch heq) (fun _ _ _ heq => nomatch heq)
    fun _ _ _ heq => nomatch heq

end Program

namespace Machine
variable {T C σ α : Type} [DecidableEq T] [DecidableEq C] {m m' m₀ : Machine T C σ α} {t : T}
  {allowed : Program T C σ α → Prop}

def RequestsWithin (allowed : Program T C σ α → Prop) (requests : List (Request T C σ α)) : Prop :=
  ∀ r ∈ requests, ∀ result, (r.next result).Within allowed

def ThreadWithin (allowed : Program T C σ α → Prop) : Thread T C σ α → Prop
  | .run requests program => program.Within allowed ∧ RequestsWithin allowed requests
  | .request stage r outer =>
    RequestsWithin allowed (r :: outer) ∧
      match stage with
      | .claimed builder | .cleared builder => builder.Within allowed
      | _ => True
  | .done _ => True

/-- Every program in the machine takes allowed actions only. -/
structure Within (allowed : Program T C σ α → Prop) (m : Machine T C σ α) : Prop where
  cells : ∀ c builder, m.cells c = .empty builder → builder.Within allowed
  threads : ∀ t thread, m.threads.get? t = some thread → ThreadWithin allowed thread

/-- Asking for cells is all that its threads may have to wait for. -/
def Ungated (m : Machine T C σ α) : Prop := m.Within fun p => ∀ gate next, p ≠ .await gate next

omit [DecidableEq T] [DecidableEq C] in
theorem requestsWithin_cons {r : Request T C σ α} {outer : List (Request T C σ α)} :
    RequestsWithin allowed (r :: outer) ↔
      (∀ result, (r.next result).Within allowed) ∧ RequestsWithin allowed outer := by
  simp [RequestsWithin]

theorem threadWithin_turn (panics : allowed .panic) (within : m.Within allowed)
    {thread new : Thread T C σ α} (found : m.threads.get? t = some thread)
    (turn : Turn m t thread m') (hnew : m'.threads.get? t = some new) :
    ThreadWithin allowed new := by
  have old := within.threads t thread found
  cases turn with
  | @conclude requests program outcome ends =>
    obtain rfl := get?_setThread_self hnew
    cases requests with
    | nil => trivial
    | cons r outer => exact ⟨old.2, trivial⟩
  | ask =>
    obtain rfl := get?_setThread_self hnew
    exact ⟨requestsWithin_cons.2 ⟨old.1.2, old.2⟩, trivial⟩
  | look =>
    obtain rfl := get?_setThread_self hnew
    exact ⟨old.1.2 _, old.2⟩
  | replace =>
    obtain rfl := get?_setThread_self hnew
    exact ⟨old.1.2.2 _, old.2⟩
  | stack =>
    obtain rfl := get?_setThread_self hnew
    exact ⟨old.1.2 _, old.2⟩
  | update =>
    obtain rfl := get?_setThread_self hnew
    exact ⟨old.1.2 _ _, old.2⟩
  | await isOpen =>
    obtain rfl := get?_setThread_self hnew
    exact ⟨old.1.2, old.2⟩
  | reuse | refuse | release | leave =>
    obtain rfl := get?_setThread_self hnew
    have split := requestsWithin_cons.1 old.1
    exact ⟨split.1 _, split.2⟩
  | approach | wait | serve | publish =>
    obtain rfl := get?_setThread_self hnew
    exact ⟨old.1, trivial⟩
  | claim free =>
    obtain rfl := get?_setThread_self hnew
    exact ⟨old.1, within.cells _ _ free⟩
  | clear =>
    obtain rfl := get?_setThread_self hnew
    exact ⟨old.1, old.2⟩
  | enter =>
    obtain rfl := get?_setThread_self hnew
    exact ⟨old.2, old.1⟩
  | unwind =>
    obtain rfl := get?_setThread_self hnew
    exact ⟨panics, (requestsWithin_cons.1 old.1).2⟩

theorem Within.turn (panics : allowed .panic) (within : m.Within allowed)
    {thread : Thread T C σ α} (found : m.threads.get? t = some thread)
    (turn : Turn m t thread m') : m'.Within allowed where
  cells c builder hc := by
    have change := cellTurn_of_turn turn c
    rw [hc] at change
    generalize hcell : Cell.empty builder = cell at change
    cases change with
    | keep => exact within.cells c builder hcell.symm
    | replace here free =>
      subst here
      cases hcell
      exact (within.threads t _ found).1.2.1
    | claim _ _ _ => cases hcell
    | @publish r outer outcome here _ =>
      cases outcome with
      | panicked => cases hcell
      | returned result => cases result <;> cases hcell
  threads := forall_threads_turn turn (fun u other _ hu => within.threads u other hu)
    fun _ hnew => threadWithin_turn panics within found turn hnew

theorem within_runSchedule (panics : allowed .panic) (within : m₀.Within allowed)
    (schedule : List T) : (m₀.runSchedule schedule).Within allowed := by
  refine runSchedule_induction (P := Within allowed) within ?_ schedule
  intro before t thread m' within found turn
  exact within.turn panics found turn

theorem Ungated.turn (ungated : m.Ungated) {thread : Thread T C σ α}
    (found : m.threads.get? t = some thread) (turn : Turn m t thread m') : m'.Ungated := by
  refine Within.turn ?_ ungated found turn
  intro gate next heq
  cases heq

theorem ungated_runSchedule (ungated : m₀.Ungated) (schedule : List T) :
    (m₀.runSchedule schedule).Ungated := by
  refine within_runSchedule ?_ ungated schedule
  intro gate next heq
  cases heq

/-- Why a thread cannot act. -/
theorem step_eq_none {thread : Thread T C σ α} (found : m.threads.get? t = some thread)
    (stuck : m.step t = none) :
    (∃ outcome, thread = .done outcome) ∨ (∃ c, m.BlockedOn t c) ∨
      ∃ requests gate next, thread = .run requests (.await gate next) ∧ gate ∉ m.gates := by
  cases thread with
  | done outcome => exact Or.inl ⟨outcome, rfl⟩
  | run requests program =>
    have stuck' : m.runStep t requests program = none := by simpa [step, found] using stuck
    cases program with
    | await gate next =>
      refine Or.inr (Or.inr ⟨requests, gate, next, rfl, ?_⟩)
      intro isOpen
      simp [runStep, isOpen] at stuck'
    | ok _ | fail _ | panic | get _ _ | look _ _ | replace _ _ _ | stack _ | update _ _ =>
      simp [runStep] at stuck'
  | request stage r outer =>
    have stuck' : m.requestStep t r outer stage = none := by simpa [step, found] using stuck
    cases stage with
    | inspect =>
      cases hcell : m.cells r.cell with
      | building => exact Or.inr (Or.inl ⟨r.cell, r, outer, found, rfl, hcell⟩)
      | empty _ | built _ | failed _ => simp [requestStep, hcell] at stuck'
    | check => cases hc : (m.content r.cell).outcome? <;> simp [requestStep, hc] at stuck'
    | register => cases hd : m.detector.request t r.cell <;> simp [requestStep, hd] at stuck'
    | published outcome => cases outcome <;> simp [requestStep] at stuck'
    | served _ | claimed _ | cleared _ | ended _ => simp [requestStep] at stuck'

/-- Where no program waits for gates, a thread that is neither done nor blocked can act. -/
theorem step_isSome (ungated : m.Ungated) {thread : Thread T C σ α}
    (found : m.threads.get? t = some thread) (running : ∀ outcome, thread ≠ .done outcome)
    (free : ∀ c, ¬ m.BlockedOn t c) : (m.step t).isSome := by
  cases hstep : m.step t with
  | some m' => rfl
  | none =>
    rcases step_eq_none found hstep with ⟨outcome, heq⟩ | ⟨c, blocked⟩ | ⟨_, gate, next, heq, _⟩
    · exact absurd heq (running outcome)
    · exact absurd blocked (free c)
    · subst heq
      have head := (ungated.threads t _ found).1.head
      exact absurd rfl (head gate next)

end Machine
end ClusterDriver
