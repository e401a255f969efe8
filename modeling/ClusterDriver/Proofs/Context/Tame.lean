import ClusterDriver.Proofs.Cluster.JobCompletion
import ClusterDriver.Proofs.Context.Passes
/-!
# Tame programs

A program is tame if it starts no metadata manager, gives the cell of the manager no other builder
and undoes no closing. Accessors and the builders of all components but the manager are tame, as
long as the strategies are.
-/
namespace ClusterDriver

/-- Nothing is started, and nothing that was closed is open again. -/
structure ContextState.Tame (s s' : ContextState) : Prop where
  closed : s.closed = true → s'.closed = true
  length : s'.managers.length = s.managers.length
  stopped : ∀ (id : ManagerId) (manager manager' : Manager), s.managers[id]? = some manager →
    s'.managers[id]? = some manager' → manager.isRunning = false → manager'.isRunning = false

namespace ContextState
variable {s s' : ContextState}

/-- Publishing and the like. -/
theorem Tame.of_same (closed : s'.closed = s.closed) (managers : s'.managers = s.managers) :
    s.Tame s' where
  closed h := closed.trans h
  length := by rw [managers]
  stopped id manager manager' h h' stopped := by
    rw [managers] at h'
    cases h.symm.trans h'
    exact stopped

theorem Tame.refl (s : ContextState) : s.Tame s := .of_same rfl rfl

/-- No manager accepts jobs. -/
def Stopped (s : ContextState) : Prop :=
  ∀ (id : ManagerId) (manager : Manager), s.managers[id]? = some manager →
    manager.isRunning = false

theorem stopped_of_empty (empty : s.managers = []) : s.Stopped := by
  intro id manager h
  simp [empty] at h

theorem Tame.keeps_stopped (tame : s.Tame s') (stopped : s.Stopped) : s'.Stopped := by
  intro id manager' h
  have bound : id < s.managers.length := by
    rw [← tame.length]
    exact (List.getElem?_eq_some_iff.1 h).1
  have there : s.managers[id]? = some s.managers[id] := List.getElem?_eq_getElem bound
  exact tame.stopped id _ manager' there h (stopped id _ there)

theorem Tame.eq_nil (tame : s.Tame s') (empty : s.managers = []) : s'.managers = [] :=
  List.length_eq_zero_iff.1 (by rw [tame.length, empty]; rfl)

end ContextState

theorem Task.closed_tick {σ ρ : Type} {k k' : Task σ ρ} (closed : k.accepting = false)
    (h : k.tick = some k') : k'.accepting = false := by
  have turn := Coordination.turn_of_tick ({ task := k } : Coordination Unit σ ρ)
  have after : (({ task := k } : Coordination Unit σ ρ).act .tick).task = k' := by
    simp [Coordination.act, h]
  rw [after] at turn
  exact (closed_turn closed turn).1

theorem Task.closed_settle {σ ρ : Type} {k : Task σ ρ} (closed : k.accepting = false) :
    k.settle.accepting = false := by
  unfold settle
  generalize patience = fuel
  induction fuel generalizing k with
  | zero => exact closed
  | succ fuel ih =>
    rw [settleWithin]
    split
    · exact closed
    · next h => exact ih (closed_tick closed h)

/-- A shutdown that nobody interferes with leaves the task closed. -/
theorem Coordination.closed_callAndSettle {T σ ρ : Type} [DecidableEq T]
    (o : Coordination T σ ρ) (t : T) :
    (o.callAndSettle t .shutdown).2.task.accepting = false := by
  have closed : (o.call t .shutdown).settle.task.accepting = false := by
    refine Task.closed_settle ?_
    rw [task_call]
    rfl
  have task : (((o.call t .shutdown).settle.resume t).getD (o.call t .shutdown).settle).task =
      (o.call t .shutdown).settle.task := by
    cases h : (o.call t .shutdown).settle.resume t with
    | none => rfl
    | some o' => exact task_resume h
  unfold callAndSettle
  simp only
  split <;> exact (congrArg Task.accepting task).trans closed

theorem Manager.isRunning_close (m : Manager) (caller : String) :
    (m.close caller).isRunning = false :=
  m.coordination.closed_callAndSettle caller

namespace ContextState

theorem onBus_snd {β : Type} (s : ContextState) (id : BusId)
    (f : EventBus Event → β × EventBus Event) :
    (s.onBus id f).2.managers = s.managers ∧ (s.onBus id f).2.closed = s.closed := by
  unfold onBus
  split <;> exact ⟨rfl, rfl⟩

theorem closeManager_managers (s : ContextState) (thread : String) (id : ManagerId) :
    (s.closeManager thread id).managers = (s.managers[id]?.map fun manager =>
        s.managers.set id (manager.close thread).takeOutbox.2).getD s.managers ∧
      (s.closeManager thread id).closed = s.closed := by
  unfold closeManager onManager
  cases h : s.managers[id]? with
  | none => exact ⟨rfl, rfl⟩
  | some manager => exact onBus_snd _ _ _

/-- Whatever manager there is under this number after it was closed, it has stopped. -/
theorem stopped_closeManager (s : ContextState) (thread : String) (id : ManagerId)
    {manager : Manager} (h : (s.closeManager thread id).managers[id]? = some manager) :
    manager.isRunning = false := by
  rw [(closeManager_managers s thread id).1] at h
  cases there : s.managers[id]? with
  | none => simp [there] at h
  | some before =>
    have bound := (List.getElem?_eq_some_iff.1 there).1
    simp only [there, Option.map_some, Option.getD_some, List.getElem?_set_self bound,
      Option.some.injEq] at h
    subst h
    exact before.isRunning_close thread

theorem tame_closeManager (s : ContextState) (thread : String) (id : ManagerId) :
    s.Tame (s.closeManager thread id) where
  closed h := (closeManager_managers s thread id).2.trans h
  length := by
    rw [(closeManager_managers s thread id).1]
    cases s.managers[id]? <;> simp
  stopped other manager manager' h h' stopped := by
    by_cases same : id = other
    · subst same
      exact stopped_closeManager s thread id h'
    · rw [(closeManager_managers s thread id).1] at h'
      cases there : s.managers[id]? with
      | none =>
        simp only [there, Option.map_none, Option.getD_none] at h'
        cases h.symm.trans h'
        exact stopped
      | some before =>
        simp only [there, Option.map_some, Option.getD_some, List.getElem?_set_ne same] at h'
        cases h.symm.trans h'
        exact stopped

/-- Where there was one manager, none accepts jobs after it was closed. -/
theorem stopped_of_closeManager (s : ContextState) (thread : String)
    (one : s.managers.length = 1) : (s.closeManager thread 0).Stopped := by
  intro id manager h
  obtain rfl : id = 0 := by
    have bound := (List.getElem?_eq_some_iff.1 h).1
    rw [(s.tame_closeManager thread 0).length, one] at bound
    exact Nat.lt_one_iff.1 bound
  exact s.stopped_closeManager thread 0 h

end ContextState

/-- Of the states that it reads, only those that satisfy the guard count. -/
def TameWhile (guard : ContextState → Prop) : ContextProgram → Prop
  | .ok _ | .fail _ | .panic => True
  | .get _ next => ∀ result, TameWhile guard (next result)
  | .look _ next => ∀ content, TameWhile guard (next content)
  | .replace cell builder next => cell ≠ .metadataManager ∧ TameWhile guard builder ∧
      ∀ installed, TameWhile guard (next installed)
  | .stack next => ∀ cells, TameWhile guard (next cells)
  | .update change next => (∀ thread (s : ContextState), s.Tame (change thread s)) ∧
      ∀ thread s, guard s → TameWhile guard (next thread s)
  | .await _ next => TameWhile guard next

/-- It starts no manager, whatever it finds. -/
abbrev Tame : ContextProgram → Prop := TameWhile fun _ => True

/-- It starts no manager once the context is closed. -/
abbrev TameOnceClosed : ContextProgram → Prop := TameWhile fun s => s.closed = true

theorem TameWhile.mono {guard guard' : ContextState → Prop} (sub : ∀ s, guard' s → guard s)
    {p : ContextProgram} (tame : TameWhile guard p) : TameWhile guard' p := by
  induction p with
  | ok | fail | panic => trivial
  | get _ _ ih => exact fun result => ih result (tame result)
  | look _ _ ih => exact fun content => ih content (tame content)
  | replace _ _ _ ihb ih =>
    exact ⟨tame.1, ihb tame.2.1, fun installed => ih installed (tame.2.2 installed)⟩
  | stack _ ih => exact fun cells => ih cells (tame cells)
  | update _ _ ih => exact ⟨tame.1, fun thread s h => ih thread s (tame.2 thread s (sub s h))⟩
  | await _ _ ih => exact ih tame

theorem Tame.onceClosed {p : ContextProgram} (tame : Tame p) : TameOnceClosed p :=
  tame.mono fun _ _ => trivial

theorem lenient_tameWhile (guard : ContextState → Prop) : Lenient (TameWhile guard) where
  fail _ := trivial
  panic := trivial
  get _ _ h := h
  read _ h := ⟨fun _ s => .refl s, fun thread s _ => h thread s⟩

namespace Build
variable {β : Type} {guard : ContextState → Prop}

/-- The program of a build is tame if what it goes on with is. -/
def Tame (guard : ContextState → Prop) (build : Build β) : Prop :=
  ∀ next, (∀ b, TameWhile guard (next b)) → TameWhile guard (build next)

/-- A change of the shared state that starts nothing. -/
theorem tame_update {change : String → ContextState → ContextState}
    (tame : ∀ thread (s : ContextState), s.Tame (change thread s)) (f : String → ContextState → β) :
    Tame guard (fun next => .update change fun thread s => next (f thread s) : Build β) :=
  fun _ h => ⟨tame, fun thread s _ => h (f thread s)⟩

theorem tame_content (id : ComponentId) : Tame guard (content id) := fun _ h content => h content

theorem tame_require (id : ComponentId) : Tame guard (require id) :=
  (lenient_tameWhile guard).require id

theorem tame_stopManager (id : ManagerId) : Tame guard (stopManager id) :=
  tame_update (fun thread s => s.tame_closeManager thread id) fun _ _ => ()

theorem tame_close : Tame guard close := by
  refine passes_bind (tame_update (fun _ s => ?_) fun _ s => s) fun found => ?_
  · exact ⟨fun _ => rfl, rfl, fun id manager manager' h h' stopped => by
      cases h.symm.trans h'
      exact stopped⟩
  · refine passes_ite (passes_pure _) (passes_bind (tame_content _) fun content => ?_)
    refine passes_ite (passes_pure _) ?_
    refine passes_bind ((lenient_tameWhile guard).cell _) fun found => ?_
    cases found with
    | error e => exact passes_pure _
    | ok id => exact tame_stopManager id

theorem tame_makeBus (capacity : Nat) : Tame guard (makeBus capacity) := by
  refine passes_ite (tame_update (fun _ s => ?_) fun _ s => s.buses.length) fun _ _ => trivial
  exact .of_same rfl rfl

/-- Once the context is closed, no accessor gives anything out. -/
theorem require_once_closed (id : ComponentId) (next : id.Value → ContextProgram) :
    TameOnceClosed (require id next) := by
  refine ⟨fun _ s => .refl s, fun _ s closed => ?_⟩
  simp [closed, pure, ofResult, raise, TameWhile]

end Build

def StrategyTable.Tame {β : Type} (t : StrategyTable β) : Prop :=
  ∀ id build, t.entries.get? id = some build → Build.Tame (fun _ => True) build

structure Strategies.Tame (t : Strategies) : Prop where
  balancing : t.balancing.Tame
  reconnection : t.reconnection.Tame
  addressing : t.addressing.Tame
  auth : t.auth.Tame
  ssl : t.ssl.Tame
  compression : t.compression.Tame

theorem Strategies.tame_iff {t : Strategies} : t.Tame ↔ t.Passes ClusterDriver.Tame :=
  ⟨fun ⟨h₁, h₂, h₃, h₄, h₅, h₆⟩ => ⟨h₁, h₂, h₃, h₄, h₅, h₆⟩,
    fun ⟨h₁, h₂, h₃, h₄, h₅, h₆⟩ => ⟨h₁, h₂, h₃, h₄, h₅, h₆⟩⟩

theorem Strategies.tame_builtin (s : Settings) : (Strategies.builtin s).Tame :=
  tame_iff.2 ((lenient_tameWhile _).builtin s)

/-- Where the strategies start no manager, the one builder that does is the manager's own. -/
theorem Assembly.tame_builder (a : Assembly) (strategies : a.strategies.Tame) {id : ComponentId}
    (other : id ≠ .metadataManager) : Build.Tame (fun _ => True) (a.builder id) :=
  (lenient_tameWhile _).builder (Strategies.tame_iff.1 strategies) (Build.tame_makeBus _) other

end ClusterDriver
