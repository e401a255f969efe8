import ClusterDriver.Proofs.Context.Shut
import ClusterDriver.Proofs.Registry.CellHistory
import ClusterDriver.Proofs.Registry.Refusals
/-!
# Closing

The call that closes a context finds the manager not asked for, being built, built or failed. It
waits for a manager that is being built, and stops it unless its builder did. In each case the
context is shut when the call returns.
-/
namespace ClusterDriver

/-- What closing does with the manager. -/
def stopFound (next : Unit → ContextProgram) : Except AccessError Answer → ContextProgram
  | .error _ => next ()
  | .ok answer => match answer.value? .metadataManager with
    | some id => Build.stopManager id next
    | none => .panic

/-- What closing does after it has looked at the cell of the manager. -/
def stopUnlessEmpty (next : Unit → ContextProgram) (content : Content Answer) : ContextProgram :=
  if content.status = .empty then next () else .get .metadataManager (stopFound next)

theorem close_eq (next : Unit → ContextProgram) : Build.close next =
    .update (fun _ s => { s with closed := true }) fun _ s =>
      if s.closed then next () else .look .metadataManager (stopUnlessEmpty next) := by
  refine congrArg (Program.update _) ?_
  funext _ s
  by_cases closed : s.closed = true
  · simp only [closed, if_true]
    rfl
  · simp only [closed]
    refine congrArg (Program.look _) ?_
    funext content
    by_cases empty : content.status = .empty
    · simp only [stopUnlessEmpty, empty, if_true]
      rfl
    · simp only [stopUnlessEmpty, empty, if_false]
      refine congrArg (Program.get _) ?_
      funext result
      cases result with
      | error e => rfl
      | ok answer =>
        simp only [stopFound]
        cases answer.value? .metadataManager <;> rfl

/-- A program does not go on with itself. -/
theorem Program.not_remains_self {T C σ α : Type} (p : Program T C σ α) : ¬ p.Remains p :=
  Program.remains_wellFounded.irrefl.irrefl p

namespace Machine
variable {m m' m₀ : ContextMachine} {t u : String} {thread : ContextThread}
  {next : Unit → ContextProgram} {schedule : List String}

/-- Where the call that closes the context stands between its first action and its return. -/
inductive Closing (m : ContextMachine) (next : Unit → ContextProgram) : ContextThread → Prop
  | looks : Closing m next (.run [] (.look .metadataManager (stopUnlessEmpty next)))
  | asks (begun : (m.content .metadataManager).status ≠ .empty) :
    Closing m next (.run [] (.get .metadataManager (stopFound next)))
  | checks (begun : (m.content .metadataManager).status ≠ .empty) :
    Closing m next (.request .check ⟨.metadataManager, stopFound next⟩ [])
  | registers (begun : (m.content .metadataManager).status ≠ .empty) :
    Closing m next (.request .register ⟨.metadataManager, stopFound next⟩ [])
  | inspects (begun : (m.content .metadataManager).status ≠ .empty) :
    Closing m next (.request .inspect ⟨.metadataManager, stopFound next⟩ [])
  | served (result) (complete : (m.content .metadataManager).outcome? = some result) :
    Closing m next (.request (.served result) ⟨.metadataManager, stopFound next⟩ [])
  | stops (built : (m.content .metadataManager).outcome? =
      some (.ok (.component .metadataManager (0 : ManagerId)))) :
    Closing m next (.run [] (Build.stopManager 0 next))

/-- A cell that was asked for is never empty again. -/
theorem status_ne_empty_turn (turn : Turn m t thread m') {c : ComponentId}
    (begun : (m.content c).status ≠ .empty) : (m'.content c).status ≠ .empty := by
  have started : ∀ builder, m.cells c ≠ .empty builder := fun builder h =>
    begun (status_eq_empty.2 ⟨builder, h⟩)
  intro empty
  obtain ⟨builder, h⟩ := status_eq_empty.1 empty
  exact not_empty_turn turn started builder h

/-- The call stays where it is while others act. -/
theorem Closing.of_turn (closing : m.Closing next thread) (owned : m.roster.Owned)
    {other : ContextThread} (found : m.threads.get? u = some other) (turn : Turn m u other m') :
    m'.Closing next thread := by
  cases closing with
  | looks => exact .looks
  | asks begun => exact .asks (status_ne_empty_turn turn begun)
  | checks begun => exact .checks (status_ne_empty_turn turn begun)
  | registers begun => exact .registers (status_ne_empty_turn turn begun)
  | inspects begun => exact .inspects (status_ne_empty_turn turn begun)
  | served result complete => exact .served result (outcome_turn owned found turn complete)
  | stops built => exact .stops (outcome_turn owned found turn built)

/-- The context is shut, or the call of `t` that closes it is under way. -/
def ShutOrClosing (m : ContextMachine) (t : String) (next : Unit → ContextProgram) : Prop :=
  m.Shut ∨ m.shared.closed = true ∧
    ∃ thread, m.threads.get? t = some thread ∧ m.Closing next thread

/-- The answer that the call gets. -/
theorem shutOrClosing_of_answer (contained : m.Contained) (owned : m.roster.Owned)
    (closed : m.shared.closed = true) {result : Except AccessError Answer}
    (complete : (m.content .metadataManager).outcome? = some result)
    (goes : m.threads.get? t = some (.run [] (stopFound next result))) :
    m.ShutOrClosing t next := by
  have hcell := outcome_eq_some.1 complete
  cases result with
  | error e =>
    exact Or.inl (shut_of_unbuilt contained owned closed (hcell ▸ nofun) fun _ => hcell ▸ nofun)
  | ok answer =>
    have stored := contained.cell
    rw [hcell] at stored
    obtain ⟨rfl, _⟩ := stored
    refine Or.inr ⟨closed, _, goes, ?_⟩
    simpa [stopFound] using Closing.stops complete

/-- An action of the call itself. The context is shut as soon as the call returns. -/
theorem Closing.turn (closing : m.Closing next thread) (contained : m.Contained)
    (owned : m.roster.Owned) (closed : m.shared.closed = true)
    (allowed : ∀ r chain, thread = .request .register r [] →
      m.detector.request t r.cell ≠ .error chain)
    (found : m.threads.get? t = some thread) (turn : Turn m t thread m') :
    m'.ShutOrClosing t next := by
  have contained' := contained.turn owned found turn
  have owned' : m'.roster.Owned := owned.move (roster_turn found turn)
  cases closing with
  | looks =>
    cases turn with
    | conclude ends => cases ends
    | look =>
      by_cases empty : (m.content .metadataManager).status = .empty
      · obtain ⟨builder, hcell⟩ := status_eq_empty.1 empty
        exact Or.inl (shut_of_unbuilt contained' owned' closed (hcell ▸ nofun)
          fun _ => hcell ▸ nofun)
      · refine Or.inr ⟨closed, _, Table.get?_insert_self _ _ _, ?_⟩
        rw [stopUnlessEmpty, if_neg empty]
        exact .asks empty
  | asks begun =>
    cases turn with
    | conclude ends => cases ends
    | ask => exact Or.inr ⟨closed, _, Table.get?_insert_self _ _ _, .checks begun⟩
  | checks begun =>
    cases turn with
    | reuse complete =>
      exact shutOrClosing_of_answer contained' owned' closed complete (Table.get?_insert_self _ _ _)
    | approach => exact Or.inr ⟨closed, _, Table.get?_insert_self _ _ _, .registers begun⟩
  | registers begun =>
    cases turn with
    | refuse refused => exact absurd refused (allowed _ _ rfl)
    | wait => exact Or.inr ⟨closed, _, Table.get?_insert_self _ _ _, .inspects begun⟩
  | inspects begun =>
    cases turn with
    | serve complete =>
      exact Or.inr ⟨closed, _, Table.get?_insert_self _ _ _, .served _ complete⟩
    | claim free => exact absurd (status_eq_empty.2 ⟨_, free⟩) begun
  | served result complete =>
    cases turn with
    | release =>
      exact shutOrClosing_of_answer contained' owned' closed complete (Table.get?_insert_self _ _ _)
  | stops built =>
    cases turn with
    | conclude ends => cases ends
    | update =>
      exact Or.inl
        (shut_of_closeManager contained contained' owned' closed (outcome_eq_some.1 built) rfl rfl)

theorem shutOrClosing_runSchedule (guarded : m₀.Guarded) (before rest : List String)
    (calls : (m₀.runSchedule before).threads.get? t = some (.run [] (Build.close next)))
    (first : (m₀.runSchedule before).shared.closed = false) :
    (m₀.runSchedule (before ++ t :: rest)).ShutOrClosing t next := by
  have begins : (m₀.runSchedule (before ++ [t])).ShutOrClosing t next := by
    rw [close_eq] at calls
    rw [runSchedule_concat, step, calls]
    refine Or.inr ⟨rfl, _, Table.get?_insert_self _ _ _, ?_⟩
    simp only [first, Bool.false_eq_true, if_false]
    exact .looks
  induction rest using List.reverseRecOn with
  | nil => exact begins
  | append_singleton rest u ih =>
    rw [← List.cons_append, ← List.append_assoc, runSchedule_concat]
    generalize hwhole : before ++ t :: rest = whole at ih
    have contained := contained_runSchedule guarded whole
    have owned := owned_runSchedule guarded.fresh whole
    cases hstep : (m₀.runSchedule whole).step u with
    | none => exact ih
    | some m' =>
      obtain ⟨other, hother, turn⟩ := turn_of_step hstep
      rcases ih with shut | ⟨closed, thread, found, closing⟩
      · exact Or.inl (shut.turn hother turn)
      · by_cases hu : u = t
        · subst hu
          obtain rfl := Option.some.inj (found.symm.trans hother)
          refine closing.turn contained owned closed ?_ found turn
          rintro r chain rfl refused
          exact outer_ne_nil_of_refused guarded.fresh found refused rfl
        · refine Or.inr ⟨?_, thread, (threads_turn turn (Ne.symm hu)).trans found,
            closing.of_turn owned hother turn⟩
          rcases shared_turn contained hother turn with tame | ⟨_, _, _, _, _, started, _⟩
          · exact tame.closed closed
          · exact (congrArg ContextState.closed started).trans closed

/-- The call has not returned while it is under way. -/
theorem Closing.not_returned : ¬ m.Closing next (.run [] (next ())) := by
  intro closing
  generalize here : next () = p at closing
  cases closing with
  | looks =>
    have remains : (stopUnlessEmpty next .empty).Remains
        (.look .metadataManager (stopUnlessEmpty next)) := .seen .empty
    rw [← here] at remains
    exact Program.not_remains_self (next ()) remains
  | asks =>
    have remains : (stopFound next (.error .closed)).Remains
        (.get .metadataManager (stopFound next)) := .answered _
    rw [← here] at remains
    exact Program.not_remains_self (next ()) remains
  | stops =>
    have remains : (next ()).Remains (Build.stopManager 0 next) :=
      @Program.Remains.updated _ _ _ _ _ (fun _ _ => next ()) "" {}
    rw [← here] at remains
    exact Program.not_remains_self (next ()) remains

/-- Closing leaves no task. When the call that closed the context has returned, no manager accepts
jobs, none is started any more, and every accessor answers that the context is closed and does
nothing else. -/
theorem close_leaves_no_task (m₀ : ContextMachine) (guarded : m₀.Guarded)
    (before rest : List String) (t : String) (next : Unit → ContextProgram)
    (calls : (m₀.runSchedule before).threads.get? t = some (.run [] (Build.close next)))
    (first : (m₀.runSchedule before).shared.closed = false)
    (returned : (m₀.runSchedule (before ++ t :: rest)).threads.get? t = some (.run [] (next ())))
    (later : List String) :
    let m := m₀.runSchedule (before ++ t :: rest)
    let m' := m.runSchedule later
    (∀ (id : ManagerId) manager, m'.shared.managers[id]? = some manager →
      manager.coordination.Refuses) ∧
    m'.shared.managers.length = m.shared.managers.length ∧
    ∀ u requests id (goOn : Except AccessError id.Value → ContextProgram),
      m'.threads.get? u = some (.run requests (Build.get id goOn)) →
      m'.step u = some (m'.setThread u (.run requests (goOn (.error .closed)))) := by
  intro m m'
  have shut : m.Shut := by
    rcases shutOrClosing_runSchedule guarded before rest calls first with shut | ⟨_, _, found, h⟩
    · exact shut
    · cases Option.some.inj (returned.symm.trans found)
      exact absurd h Closing.not_returned
  obtain ⟨shut', same⟩ := shut.runSchedule later
  refine ⟨fun id manager h => Coordination.refuses_of_closed (shut'.stopped id manager h), same, ?_⟩
  intro u requests id goOn found
  have asks : Build.get id goOn = .update (fun _ s => s) fun _ s =>
      (if s.closed then pure (.error .closed) else Build.cell id : Build _) goOn := rfl
  rw [asks] at found
  have closed : m'.shared.closed = true := shut'.closed
  simp only [step, found, runStep, closed, if_true]
  rfl

/-- One thread opens the manager, one closes the context and one comes late. -/
def racing : ContextMachine :=
  { (Context.ofAssembly {}).machine with
    threads := .ofList
      [("opener", .run [] (Context.accessor .metadataManager)),
        ("closer", .run [] Context.closing),
        ("late", .run [] (Context.accessor .eventBus))] }

/-- The manager has been started, and its builder is about to see whether it is still wanted. -/
def startedManager : List String := List.replicate 29 "opener"

/-- The closer waits for the builder, which stops the manager itself. -/
def waitedForBuilder : List String :=
  List.replicate 4 "closer" ++ List.replicate 6 "opener" ++ List.replicate 2 "closer"

set_option maxRecDepth 4000 in
theorem racing_leaves_no_task :
    let m := racing.runSchedule (startedManager ++ "closer" :: waitedForBuilder)
    racing.Guarded ∧
    (racing.runSchedule startedManager).threads.get? "closer" = some (.run [] Context.closing) ∧
    (racing.runSchedule startedManager).shared.closed = false ∧
    m.threads.get? "closer" = some (.run [] (.ok .nothing)) ∧
    m.shared.managers.length = 1 ∧
    (∀ later (id : ManagerId) manager, (m.runSchedule later).shared.managers[id]? = some manager →
      manager.coordination.Refuses) ∧
    m.step "late" = some (m.setThread "late" (.run [] (.fail (.ofAccess .closed)))) := by
  intro m
  have guarded : racing.Guarded := by
    refine guarded_ofAssembly {} (Strategies.tame_builtin _) _ ?_
    refine List.forall_mem_cons.2 ⟨⟨_, rfl, ?_⟩, List.forall_mem_cons.2 ⟨⟨_, rfl, ?_⟩,
      List.forall_mem_singleton.2 ⟨_, rfl, ?_⟩⟩⟩
    · exact Build.tame_require _ _ fun _ => trivial
    · exact Build.tame_close _ fun _ => trivial
    · exact Build.tame_require _ _ fun _ => trivial
  have calls : (racing.runSchedule startedManager).threads.get? "closer" =
      some (.run [] (Build.close fun _ => .ok .nothing)) := rfl
  have returned : m.threads.get? "closer" = some (.run [] (.ok .nothing)) := rfl
  have late : m.threads.get? "late" = some (.run [] (Build.get .eventBus fun found =>
      Build.ofResult found fun bus => .ok (.component .eventBus bus))) := rfl
  have leaves := close_leaves_no_task racing guarded startedManager waitedForBuilder "closer" _
    calls rfl returned
  obtain ⟨_, _, answers⟩ := leaves []
  rw [runSchedule_nil] at answers
  exact ⟨guarded, calls, rfl, returned, rfl, fun later => (leaves later).1,
    answers "late" [] .eventBus _ late⟩

end Machine
end ClusterDriver
