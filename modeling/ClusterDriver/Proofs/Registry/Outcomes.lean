import ClusterDriver.Proofs.Registry.Ownership
/-!
# Outcomes

How the content of a cell can change, and that it does not change any more once there is an outcome.
What a thread was served with, or has published, is the outcome of the cell.
-/
namespace ClusterDriver.Machine
variable {T C σ α : Type} [DecidableEq T] [DecidableEq C] {m m' m₀ : Machine T C σ α} {t : T}

/-- What one action of `t`, done from `thread`, can do to the cell `c`. -/
inductive CellTurn (m : Machine T C σ α) (thread : Thread T C σ α) (c : C) :
    Cell T C σ α → Prop
  | keep : CellTurn m thread c (m.cells c)
  | replace {requests builder next old} (here : thread = .run requests (.replace c builder next))
      (free : m.cells c = .empty old) : CellTurn m thread c (.empty builder)
  | claim {r outer builder} (here : thread = .request .inspect r outer) (cell : r.cell = c)
      (free : m.cells c = .empty builder) : CellTurn m thread c .building
  | publish {r outer outcome} (here : thread = .request (.ended outcome) r outer)
      (cell : r.cell = c) : CellTurn m thread c (m.settled c outcome)

omit [DecidableEq T] in
theorem cells_setCell_self (m : Machine T C σ α) (c : C) (cell : Cell T C σ α) :
    (m.setCell c cell).cells c = cell := by
  simp [setCell]

omit [DecidableEq T] in
theorem cells_setCell_of_ne (m : Machine T C σ α) {c d : C} (h : d ≠ c) (cell : Cell T C σ α) :
    (m.setCell c cell).cells d = m.cells d := by
  simp [setCell, h]

theorem cellTurn_of_turn {thread : Thread T C σ α} (turn : Turn m t thread m') (c : C) :
    CellTurn m thread c (m'.cells c) := by
  cases turn with
  | @replace requests cell builder next =>
    change CellTurn m _ c ((m.replace cell builder).2.cells c)
    cases hcell : m.cells cell with
    | empty old =>
      by_cases hc : c = cell
      · subst hc
        simpa [Machine.replace, hcell, setCell] using CellTurn.replace rfl hcell
      · simpa [Machine.replace, hcell, setCell, hc] using CellTurn.keep
    | building | built _ | failed _ => simpa [Machine.replace, hcell] using CellTurn.keep
  | @claim r outer builder free =>
    by_cases hc : c = r.cell
    · subst hc
      exact (cells_setCell_self m r.cell .building).symm ▸ .claim rfl rfl free
    · exact (cells_setCell_of_ne m hc .building).symm ▸ .keep
  | @publish r outer outcome =>
    by_cases hc : c = r.cell
    · subst hc
      exact (cells_setCell_self m r.cell (m.settled r.cell outcome)).symm ▸ .publish rfl rfl
    · exact (cells_setCell_of_ne m hc (m.settled r.cell outcome)).symm ▸ .keep
  | conclude | ask | look | stack | update | await | reuse | approach | refuse | wait | serve
  | release | clear | enter | leave | unwind => exact .keep

/-- A builder that waits in a cell was there before, or it has just replaced another one. -/
theorem empty_turn {thread : Thread T C σ α} (turn : Turn m t thread m') {c : C}
    {builder : Program T C σ α} (empty : m'.cells c = .empty builder) :
    m.cells c = .empty builder ∨ ∃ requests next old,
      thread = .run requests (.replace c builder next) ∧ m.cells c = .empty old := by
  have change := cellTurn_of_turn turn c
  rw [empty] at change
  generalize hcell : Cell.empty builder = cell at change
  cases change with
  | keep => exact Or.inl rfl
  | replace here free =>
    cases hcell
    exact Or.inr ⟨_, _, _, here, free⟩
  | claim here cell free => cases hcell
  | @publish r outer outcome here cell =>
    rcases status_settled m c outcome with done | done
    · rw [← hcell] at done
      cases done
    · rw [← hcell] at done
      cases done

omit [DecidableEq T] [DecidableEq C] in
theorem outcome_eq_some {c : C} {result : Except AccessError α} :
    (m.content c).outcome? = some result ↔ m.cells c = .ofResult result := by
  cases hcell : m.cells c <;> cases result <;>
    simp [content, hcell, Cell.content, Content.outcome?, Cell.ofResult]

omit [DecidableEq T] [DecidableEq C] in
theorem outcome_eq_error {c : C} {error : AccessError} :
    (m.content c).outcome? = some (.error error) ↔ m.cells c = .failed error :=
  outcome_eq_some

omit [DecidableEq C] in
theorem status_eq_building {c : C} : m.roster.status c = .building ↔ m.cells c = .building := by
  cases hcell : m.cells c <;> simp [roster, content, hcell, Cell.content, Content.status]

omit [DecidableEq C] in
theorem building_iff (owned : m.roster.Owned) {c : C} :
    m.cells c = .building ↔ ∃ t, c ∈ (m.posture t).building :=
  status_eq_building.symm.trans (owned.building_iff c)

omit [DecidableEq C] in
/-- The cell of a request that is about to publish is being built. -/
theorem building_of_ended (owned : m.roster.Owned) {outcome : Outcome AccessError α}
    {r : Request T C σ α} {outer : List (Request T C σ α)}
    (found : m.threads.get? t = some (.request (.ended outcome) r outer)) :
    m.cells r.cell = .building := by
  have here : m.posture t = ⟨r.cell :: outer.map Request.cell, .none⟩ := posture_of_get? found
  exact (building_iff owned).2 ⟨t, by simp [here, Posture.building, Posture.held]⟩

/-- An outcome stays. -/
theorem outcome_turn (owned : m.roster.Owned) {thread : Thread T C σ α}
    (found : m.threads.get? t = some thread) (turn : Turn m t thread m') {c : C}
    {result : Except AccessError α} (complete : (m.content c).outcome? = some result) :
    (m'.content c).outcome? = some result := by
  have change := cellTurn_of_turn turn c
  generalize hcell : m'.cells c = cell at change
  simp only [content, hcell]
  cases change with
  | keep => exact complete
  | replace here free => simp [content, free, Cell.content, Content.outcome?] at complete
  | claim here cell free => simp [content, free, Cell.content, Content.outcome?] at complete
  | publish here cell =>
    subst here cell
    simp [content, building_of_ended owned found, Cell.content, Content.outcome?] at complete

/-- What a thread says about its cell's outcome is what the cell says. -/
def Agrees (m : Machine T C σ α) : Thread T C σ α → Prop
  | .request (.served result) r _ => (m.content r.cell).outcome? = some result
  | .request (.published outcome) r _ =>
    (m.content r.cell).outcome? = (m.settled r.cell outcome).content.outcome?
  | _ => True

omit [DecidableEq T] [DecidableEq C] in
theorem outcome_settled_isSome (m : Machine T C σ α) (c : C) (outcome : Outcome AccessError α) :
    ∃ result, (m.settled c outcome).content.outcome? = some result := by
  cases outcome with
  | panicked => exact ⟨_, rfl⟩
  | returned result => cases result <;> exact ⟨_, rfl⟩

omit [DecidableEq T] [DecidableEq C] in
theorem outcome_settled_returned (m : Machine T C σ α) (c : C) (result : Except AccessError α) :
    (m.settled c (.returned result)).content.outcome? = some result := by
  cases result <;> rfl

theorem agrees_turn (owned : m.roster.Owned) {thread other : Thread T C σ α}
    (found : m.threads.get? t = some thread) (turn : Turn m t thread m')
    (agrees : m.Agrees other) : m'.Agrees other := by
  cases other with
  | run _ _ => trivial
  | done _ => trivial
  | request stage r outer =>
    cases stage with
    | check | register | inspect | claimed _ | cleared _ | ended _ => trivial
    | served result => exact outcome_turn owned found turn agrees
    | published outcome =>
      obtain ⟨result, settled⟩ := outcome_settled_isSome m r.cell outcome
      have kept := outcome_turn owned found turn (agrees.trans settled)
      have same : m'.settled r.cell outcome = m.settled r.cell outcome := by
        cases outcome <;> simp [Machine.settled, label_turn turn]
      simp only [Agrees, same, settled, kept]

theorem agreement_turn (owned : m.roster.Owned)
    (agreement : ∀ u thread, m.threads.get? u = some thread → m.Agrees thread)
    {thread : Thread T C σ α} (found : m.threads.get? t = some thread) (turn : Turn m t thread m') :
    ∀ u thread, m'.threads.get? u = some thread → m'.Agrees thread := by
  refine forall_threads_turn turn ?_ ?_
  · exact fun u other _ hu => agrees_turn owned found turn (agreement u other hu)
  · intro new hnew
    cases turn with
    | serve complete =>
      obtain rfl := get?_setThread_self hnew
      exact complete
    | @publish r outer outcome =>
      obtain rfl := get?_setThread_self hnew
      simp [Agrees, content, setThread, setCell, settled]
    | @conclude requests program outcome ends =>
      obtain rfl := get?_setThread_self hnew
      cases requests <;> trivial
    | ask | look | stack | update | await | reuse | approach | refuse | wait | replace
    | release | clear | claim | enter | leave | unwind =>
      obtain rfl := get?_setThread_self hnew
      trivial

theorem agreement_runSchedule (fresh : m₀.Fresh) (schedule : List T) :
    ∀ u thread, (m₀.runSchedule schedule).threads.get? u = some thread →
      (m₀.runSchedule schedule).Agrees thread := by
  refine runSchedule_induction
    (P := fun m => ∀ u thread, m.threads.get? u = some thread → m.Agrees thread) ?_ ?_ schedule
  · intro u thread found
    obtain ⟨program, rfl⟩ := fresh.threads u thread found
    trivial
  · intro before t thread m' agreement found turn
    exact agreement_turn (owned_runSchedule fresh before) agreement found turn

end ClusterDriver.Machine
