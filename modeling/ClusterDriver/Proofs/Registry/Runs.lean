import ClusterDriver.Proofs.Registry.Roster
import Mathlib.Data.List.Permutation
/-!
# Runs

A run begins where nothing was asked for yet, with any threads about to run any programs, and goes
on by a schedule. `Moved` reads the past of a run off its schedule, so the past is no part of the
machine.
-/
namespace ClusterDriver.Machine
variable {T C σ α : Type} [DecidableEq T] [DecidableEq C]

/-- Every cell has its builder still, nothing is tracked, and no thread has begun a request. -/
structure Fresh (m : Machine T C σ α) : Prop where
  cells : ∀ c, ∃ builder, m.cells c = .empty builder
  graph : m.detector.graph = {}
  threads : ∀ t thread, m.threads.get? t = some thread → ∃ program, thread = .run [] program

/-- Two threads ask for two cells, each of which needs the other. -/
def crossing : Machine Bool Bool Unit Unit where
  label c := if c then "b" else "a"
  cells c := .empty (.ask !c)
  detector := { isEnabled := true }
  shared := ()
  threads := .ofList [(false, .run [] (.ask false)), (true, .run [] (.ask true))]

theorem crossing_fresh : crossing.Fresh where
  cells c := ⟨.ask !c, rfl⟩
  graph := rfl
  threads t thread found := by
    cases t with
    | false => exact ⟨.ask false, (Option.some.inj found).symm⟩
    | true => exact ⟨.ask true, (Option.some.inj found).symm⟩

/-- Both threads build a cell, and the first is blocked on the cell of the second. -/
def crossed : List Bool :=
  List.replicate 6 false ++ List.replicate 6 true ++ List.replicate 3 false

theorem runSchedule_nil (m : Machine T C σ α) : m.runSchedule [] = m := rfl

theorem runSchedule_concat (m : Machine T C σ α) (schedule : List T) (t : T) :
    m.runSchedule (schedule ++ [t]) =
      ((m.runSchedule schedule).step t).getD (m.runSchedule schedule) := by
  simp [runSchedule, List.foldl_append]

theorem runSchedule_append (m : Machine T C σ α) (before after : List T) :
    m.runSchedule (before ++ after) = (m.runSchedule before).runSchedule after := by
  simp [runSchedule, List.foldl_append]

/-- What holds at first and is kept by every turn, passed or taken, holds after any schedule. -/
theorem schedule_induction (m₀ : Machine T C σ α) {P : List T → Prop} (init : P [])
    (passed : ∀ before t, P before → (m₀.runSchedule before).step t = none →
      m₀.runSchedule (before ++ [t]) = m₀.runSchedule before → P (before ++ [t]))
    (taken : ∀ before t thread, P before →
      (m₀.runSchedule before).threads.get? t = some thread →
      Turn (m₀.runSchedule before) t thread (m₀.runSchedule (before ++ [t])) →
      P (before ++ [t])) (schedule : List T) : P schedule := by
  induction schedule using List.reverseRecOn with
  | nil => exact init
  | append_singleton before t ih =>
    have after := runSchedule_concat m₀ before t
    cases hstep : (m₀.runSchedule before).step t with
    | none => exact passed before t ih hstep (by rw [after, hstep, Option.getD_none])
    | some m' =>
      rw [hstep, Option.getD_some] at after
      obtain ⟨thread, found, turn⟩ := turn_of_step hstep
      exact taken before t thread ih found (after ▸ turn)

/-- The same for what is said of the machine alone. -/
theorem runSchedule_induction {P : Machine T C σ α → Prop} {m₀ : Machine T C σ α} (init : P m₀)
    (kept : ∀ before t thread m', P (m₀.runSchedule before) →
      (m₀.runSchedule before).threads.get? t = some thread →
      Turn (m₀.runSchedule before) t thread m' → P m') (schedule : List T) :
    P (m₀.runSchedule schedule) := by
  refine schedule_induction m₀ (P := fun before => P (m₀.runSchedule before)) init ?_ ?_ schedule
  · intro before t holds _ same
    exact same ▸ holds
  · exact fun before t thread holds found turn => kept before t thread _ holds found turn

theorem isEnabled_runSchedule (m₀ : Machine T C σ α) (schedule : List T) :
    (m₀.runSchedule schedule).detector.isEnabled = m₀.detector.isEnabled := by
  refine runSchedule_induction (P := fun m => m.detector.isEnabled = m₀.detector.isEnabled) rfl ?_
    schedule
  intro before t thread m' same _ turn
  exact (isEnabled_turn turn).trans same

/-- In the course of a schedule an action of `t` moved `c` to the state of being built. -/
def Moved (m₀ : Machine T C σ α) (schedule : List T) (t : T) (c : C) : Prop :=
  ∃ before after, schedule = before ++ t :: after ∧
    (m₀.runSchedule before).cells c ≠ .building ∧
    (m₀.runSchedule (before ++ [t])).cells c = .building

/-- The answer with which the next action of `t` ends its innermost request, if it does. -/
def answer? (m : Machine T C σ α) (t : T) : Option (C × Except AccessError α) :=
  match m.threads.get? t with
  | some (.request .check r _) => (m.content r.cell).outcome?.map fun result => (r.cell, result)
  | some (.request .register r _) =>
    match m.detector.request t r.cell with
    | .error chain => some (r.cell, .error (.cycle (chain.map m.label)))
    | .ok _ => none
  | some (.request (.served result) r _) => some (r.cell, result)
  | some (.request (.published (.returned result)) r _) => some (r.cell, result)
  | _ => none

/-- `t` is inside a request for `c` and cannot go on while the cell is being built. -/
def BlockedOn (m : Machine T C σ α) (t : T) (c : C) : Prop :=
  ∃ r outer, m.threads.get? t = some (.request .inspect r outer) ∧ r.cell = c ∧
    m.cells c = .building

variable {m : Machine T C σ α} {t : T} {c : C}

omit [DecidableEq C] in
theorem BlockedOn.posture (blocked : m.BlockedOn t c) :
    ∃ cells, m.posture t = ⟨cells, .waiting c⟩ := by
  obtain ⟨r, outer, found, rfl, _⟩ := blocked
  exact ⟨outer.map Request.cell, posture_of_get? found⟩

theorem BlockedOn.no_turn (blocked : m.BlockedOn t c) {thread : Thread T C σ α}
    {m' : Machine T C σ α} (found : m.threads.get? t = some thread) : ¬ Turn m t thread m' := by
  intro turn
  obtain ⟨r, outer, hthread, rfl, building⟩ := blocked
  obtain rfl := Option.some.inj (found.symm.trans hthread)
  cases turn with
  | serve complete => simp [content, building, Cell.content, Content.outcome?] at complete
  | claim free => simp [building] at free

theorem BlockedOn.step (blocked : m.BlockedOn t c) : m.step t = none := by
  obtain ⟨r, outer, found, rfl, building⟩ := blocked
  simp [Machine.step, found, requestStep, building]

end ClusterDriver.Machine
