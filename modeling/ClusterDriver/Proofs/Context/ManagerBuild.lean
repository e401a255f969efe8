import ClusterDriver.Context.Basic
import ClusterDriver.Proofs.Context.Tame
import ClusterDriver.Proofs.Registry.Endings
/-!
# Build of the manager

Where the cell of the metadata manager has its default builder and all else is tame, at most one
manager is ever started. It is the one that the cell gives out, or it is stopped by the time the cell
fails. What is known of a program depends on whether it is run for the manager's cell, so it is
stated for every level of every stack.
-/
namespace ClusterDriver

abbrev ContextRequest := Request String ComponentId ContextState Answer

abbrev ContextThread := Thread String ComponentId ContextState Answer

/-- What the cell of the metadata manager holds until it is asked for. -/
def managerBuilder : ContextProgram := Build.program .metadataManager Assembly.metadataManager

/-- The manager is not wanted any more. -/
def stopping (id : ManagerId) : ContextProgram :=
  .update (fun thread s => s.closeManager thread id) fun _ _ => .fail (.ofAccess .closed)

/-- The manager has been started. -/
def settling (id : ManagerId) : ContextProgram :=
  .update (fun _ s => s) fun _ s =>
    if s.closed then stopping id else .ok (.component .metadataManager id)

/-- It starts nothing until it starts one manager and goes on to settle whether it is wanted. -/
inductive Prepares : ContextProgram → Prop
  | fail (failure) : Prepares (.fail failure)
  | panic : Prepares .panic
  | get {cell next} (rest : ∀ result, Prepares (next result)) : Prepares (.get cell next)
  | read {next} (rest : ∀ thread s, Prepares (next thread s)) :
    Prepares (.update (fun _ s => s) next)
  | start {factory bus} :
    Prepares (.update (fun _ s => s.addManager factory bus) fun _ s => settling s.managers.length)

theorem prepares_require {id : ComponentId} {next : id.Value → ContextProgram}
    (rest : ∀ value, Prepares (next value)) : Prepares (Build.require id next) := by
  refine .read fun _ s => ?_
  by_cases closed : s.closed = true
  · simpa only [closed, if_true] using .fail _
  · simp only [closed]
    refine .get fun result => ?_
    cases result with
    | error e => exact .fail _
    | ok answer =>
      simp only
      split
      · exact rest _
      · exact .panic

theorem managerBuilder_eq : managerBuilder =
    Build.require .eventBus fun bus => Build.require .metricsFactory fun factory =>
      Build.startManager factory bus settling := by
  have tail : ∀ id : ManagerId, (do
      if (← Build.state).closed then
        Build.stopManager id
        Build.raise (.ofAccess .closed)
      else return id : Build ManagerId) (fun value => .ok (.component .metadataManager value)) =
        settling id := by
    intro id
    refine congrArg (Program.update _) ?_
    funext _ s
    by_cases closed : s.closed = true <;> simp only [closed, if_true] <;> rfl
  exact congrArg (Build.require .eventBus) (funext fun bus =>
    congrArg (Build.require .metricsFactory) (funext fun factory =>
      congrArg (Build.startManager factory bus) (funext tail)))

theorem prepares_managerBuilder : Prepares managerBuilder := by
  rw [managerBuilder_eq]
  exact prepares_require fun bus => prepares_require fun factory => .start

theorem managerBuilder_onceClosed : TameOnceClosed managerBuilder := by
  rw [managerBuilder_eq]
  exact Build.require_once_closed _ _

/-- What the builder of the manager may be about to do. -/
inductive Manages (s : ContextState) (p : ContextProgram) : Prop
  | prepares (unstarted : s.managers = []) (prepares : Prepares p)
  | settles (one : s.managers.length = 1) (here : p = settling 0)
  | stops (one : s.managers.length = 1) (here : p = stopping 0)
  | succeeds (one : s.managers.length = 1)
    (here : p = .ok (.component .metadataManager (0 : ManagerId)))
  | fails {failure} (stopped : s.Stopped) (here : p = .fail failure)

/-- How the builder of the manager may have ended. -/
inductive Managed (s : ContextState) : Outcome AccessError Answer → Prop
  | built (one : s.managers.length = 1) :
    Managed s (.returned (.ok (.component .metadataManager (0 : ManagerId))))
  | failed {error} (stopped : s.Stopped) : Managed s (.returned (.error error))
  | panicked (stopped : s.Stopped) : Managed s .panicked

/-- What the cell of the manager may hold. -/
def Stored (s : ContextState) : Cell String ComponentId ContextState Answer → Prop
  | .empty builder => builder = managerBuilder ∧ s.managers = []
  | .building => True
  | .built value =>
    value = .component .metadataManager (0 : ManagerId) ∧ s.managers.length = 1
  | .failed _ => s.Stopped

/-- The innermost of these requests is one for the manager. -/
def InManager (requests : List ContextRequest) : Prop :=
  (requests.map Request.cell).head? = some .metadataManager

/-- A program that is run inside some requests. -/
structure Works (s : ContextState) (requests : List ContextRequest) (p : ContextProgram) :
    Prop where
  manages : InManager requests → Manages s p
  tame : ¬ InManager requests → Tame p

/-- A program inside some requests that waits for an answer to go on with. -/
structure Resumes (s : ContextState) (outer : List ContextRequest)
    (next : Except AccessError Answer → ContextProgram) : Prop where
  unstarted : InManager outer → s.managers = []
  prepares : InManager outer → ∀ result, Prepares (next result)
  tame : ¬ InManager outer → ∀ result, Tame (next result)

/-- The programs that made these requests. -/
def Resuming (s : ContextState) : List ContextRequest → Prop
  | [] => True
  | r :: outer => Resumes s outer r.next ∧ Resuming s outer

/-- What a stage of a request for `c` has in hand. -/
def Staged (s : ContextState) (c : ComponentId) :
    Stage String ComponentId ContextState Answer → Prop
  | .claimed builder | .cleared builder =>
    (c = .metadataManager → builder = managerBuilder ∧ s.managers = []) ∧
      (c ≠ .metadataManager → Tame builder)
  | .ended outcome => c = .metadataManager → Managed s outcome
  | _ => True

/-- All that a thread has in hand. -/
def Contains (s : ContextState) : ContextThread → Prop
  | .run requests p => Works s requests p ∧ Resuming s requests
  | .request stage r outer => Resuming s (r :: outer) ∧ Staged s r.cell stage
  | .done _ => True

/-- Every program that a thread has in hand. -/
def Thread.All {T C σ α : Type} (P : Program T C σ α → Prop) : Thread T C σ α → Prop
  | .run requests p => P p ∧ ∀ r ∈ requests, ∀ result, P (r.next result)
  | .request stage r outer => (∀ q ∈ r :: outer, ∀ result, P (q.next result)) ∧
      ∀ builder, stage.builder? = some builder → P builder
  | .done _ => True

section
variable {s s' : ContextState} {requests outer : List ContextRequest} {p : ContextProgram}
  {next : Except AccessError Answer → ContextProgram}

theorem Resumes.works (resumes : Resumes s outer next) (result : Except AccessError Answer) :
    Works s outer (next result) where
  manages h := .prepares (resumes.unstarted h) (resumes.prepares h result)
  tame h := resumes.tame h result

theorem Resumes.panics (resumes : Resumes s outer next) : Works s outer .panic where
  manages h := .prepares (resumes.unstarted h) .panic
  tame _ := trivial

/-- The builder of the manager ends, asks for a cell or turns to the shared state. -/
theorem Manages.acts (manages : Manages s p) :
    (∃ outcome, p.outcome? = some outcome) ∨ (∃ cell next, p = .get cell next) ∨
      ∃ change next, p = .update change next := by
  cases manages with
  | prepares _ prepares =>
    cases prepares with
    | fail | panic => exact Or.inl ⟨_, rfl⟩
    | get => exact Or.inr (Or.inl ⟨_, _, rfl⟩)
    | read | start => exact Or.inr (Or.inr ⟨_, _, rfl⟩)
  | settles _ here | stops _ here => exact Or.inr (Or.inr ⟨_, _, here⟩)
  | succeeds _ here | fails _ here =>
    subst here
    exact Or.inl ⟨_, rfl⟩

/-- What is in hand stays right when others act tamely. -/
theorem Manages.mono (tame : s.Tame s') (manages : Manages s p) : Manages s' p := by
  cases manages with
  | prepares unstarted prepares => exact .prepares (tame.eq_nil unstarted) prepares
  | settles one here => exact .settles (tame.length.trans one) here
  | stops one here => exact .stops (tame.length.trans one) here
  | succeeds one here => exact .succeeds (tame.length.trans one) here
  | fails stopped here => exact .fails (tame.keeps_stopped stopped) here

theorem Managed.mono (tame : s.Tame s') {outcome : Outcome AccessError Answer}
    (managed : Managed s outcome) : Managed s' outcome := by
  cases managed with
  | built one => exact .built (tame.length.trans one)
  | failed stopped => exact .failed (tame.keeps_stopped stopped)
  | panicked stopped => exact .panicked (tame.keeps_stopped stopped)

theorem Stored.mono (tame : s.Tame s') {cell : Cell String ComponentId ContextState Answer}
    (stored : Stored s cell) : Stored s' cell := by
  cases cell with
  | empty builder => exact ⟨stored.1, tame.eq_nil stored.2⟩
  | building => trivial
  | built value => exact ⟨stored.1, tame.length.trans stored.2⟩
  | failed error => exact tame.keeps_stopped stored

theorem Works.mono (tame : s.Tame s') (works : Works s requests p) : Works s' requests p where
  manages h := (works.manages h).mono tame
  tame := works.tame

theorem Resuming.mono (tame : s.Tame s') (resuming : Resuming s requests) :
    Resuming s' requests := by
  induction requests with
  | nil => trivial
  | cons r outer ih =>
    obtain ⟨resumes, rest⟩ := resuming
    exact ⟨⟨fun h => tame.eq_nil (resumes.unstarted h), resumes.prepares, resumes.tame⟩, ih rest⟩

theorem Staged.mono (tame : s.Tame s') {c : ComponentId}
    {stage : Stage String ComponentId ContextState Answer} (staged : Staged s c stage) :
    Staged s' c stage := by
  cases stage with
  | check | register | inspect | served _ | published _ => trivial
  | claimed builder | cleared builder =>
    exact ⟨fun h => ⟨(staged.1 h).1, tame.eq_nil (staged.1 h).2⟩, staged.2⟩
  | ended outcome => exact fun h => (staged h).mono tame

theorem Contains.mono (tame : s.Tame s') {thread : ContextThread} (contains : Contains s thread) :
    Contains s' thread := by
  cases thread with
  | run requests p => exact ⟨contains.1.mono tame, contains.2.mono tame⟩
  | request stage r outer => exact ⟨contains.1.mono tame, contains.2.mono tame⟩
  | done outcome => trivial

theorem not_inManager (away : ComponentId.metadataManager ∉ requests.map Request.cell) :
    ¬ InManager requests :=
  fun h => away (List.mem_of_head? h)

theorem resuming_iff (away : ComponentId.metadataManager ∉ requests.tail.map Request.cell) :
    Resuming s requests ↔ ∀ r ∈ requests, ∀ result, Tame (r.next result) := by
  induction requests with
  | nil => exact ⟨fun _ r h => absurd h List.not_mem_nil, fun _ => trivial⟩
  | cons r outer ih =>
    have outside := not_inManager away
    have here : Resumes s outer r.next ↔ ∀ result, Tame (r.next result) :=
      ⟨fun h => h.tame outside,
        fun h => ⟨fun i => absurd i outside, fun i => absurd i outside, fun _ => h⟩⟩
    have further : ComponentId.metadataManager ∉ outer.tail.map Request.cell := fun h =>
      away (List.map_subset _ (List.tail_sublist outer).subset h)
    rw [List.forall_mem_cons, ← here, ← ih further, Resuming]

/-- Of a thread that does not build the manager it is only known that all it has in hand is tame,
which does not depend on the managers there are. -/
theorem contains_iff {thread : ContextThread}
    (away : ComponentId.metadataManager ∉ thread.posture.building) :
    Contains s thread ↔ thread.All Tame := by
  cases thread with
  | run requests p =>
    have outside : ¬ InManager requests := not_inManager away
    have works : Works s requests p ↔ Tame p :=
      ⟨fun h => h.tame outside, fun h => ⟨fun i => absurd i outside, fun _ => h⟩⟩
    refine and_congr works (resuming_iff fun h => away ?_)
    exact List.map_subset _ (List.tail_sublist requests).subset h
  | request stage r outer =>
    cases stage with
    | check | register | inspect | served _ | published _ =>
      exact and_congr (resuming_iff away) ⟨fun _ => nofun, fun _ => trivial⟩
    | claimed builder | cleared builder =>
      obtain ⟨other, outside⟩ := not_or.1 (mt List.mem_cons.2 away)
      refine and_congr (resuming_iff outside) ⟨fun staged b hb => ?_, fun all => ?_⟩
      · cases hb
        exact staged.2 (Ne.symm other)
      · exact ⟨fun h => absurd h.symm other, fun _ => all builder rfl⟩
    | ended outcome =>
      obtain ⟨other, outside⟩ := not_or.1 (mt List.mem_cons.2 away)
      exact and_congr (resuming_iff outside) ⟨fun _ => nofun, fun _ h => absurd h.symm other⟩
  | done outcome => exact Iff.rfl

end

namespace Machine
variable {m m' m₀ : ContextMachine} {t : String} {thread : ContextThread}

/-- What the cell of the manager and the threads have in hand is right about the managers. -/
structure Contained (m : ContextMachine) : Prop where
  cell : Stored m.shared (m.cells .metadataManager)
  others : ∀ id builder, id ≠ .metadataManager → m.cells id = .empty builder → Tame builder
  threads : ∀ t thread, m.threads.get? t = some thread → Contains m.shared thread

theorem shared_replace (m : ContextMachine) (c : ComponentId) (builder : ContextProgram) :
    (m.replace c builder).2.shared = m.shared := by
  cases hcell : m.cells c <;> simp [Machine.replace, hcell, setCell]

/-- An action is tame towards the shared state, or it starts the one manager. -/
theorem shared_turn (contained : m.Contained) (found : m.threads.get? t = some thread)
    (turn : Turn m t thread m') :
    m.shared.Tame m'.shared ∨ m.shared.managers = [] ∧ ∃ requests factory bus,
      InManager requests ∧ m'.shared = m.shared.addManager factory bus ∧
      thread = .run requests (.update (fun _ s => s.addManager factory bus) fun _ s =>
        settling s.managers.length) := by
  have contains := contained.threads t thread found
  cases turn with
  | @update requests change next =>
    change m.shared.Tame (change t m.shared) ∨ _ ∧ ∃ _ _ _, _ ∧ change t m.shared = _ ∧ _
    by_cases inside : InManager requests
    · cases contains.1.manages inside with
      | prepares unstarted prepares =>
        cases prepares with
        | read rest => exact Or.inl (.refl _)
        | @start factory bus => exact Or.inr ⟨unstarted, requests, factory, bus, inside, rfl, rfl⟩
      | settles one here =>
        obtain ⟨rfl, rfl⟩ := Program.update.inj here
        exact Or.inl (.refl _)
      | stops one here =>
        obtain ⟨rfl, rfl⟩ := Program.update.inj here
        exact Or.inl (m.shared.tame_closeManager t 0)
      | succeeds one here => cases here
      | fails stopped here => cases here
    · exact Or.inl ((contains.1.tame inside).1 t m.shared)
  | @replace requests cell builder next =>
    refine Or.inl ?_
    change m.shared.Tame (m.replace cell builder).2.shared
    rw [shared_replace]
    exact .refl _
  | conclude | ask | look | stack | await | reuse | approach | refuse | wait | serve | claim
  | release | clear | enter | publish | leave | unwind => exact Or.inl (.refl _)

/-- Any other action is not one of the manager's builder. -/
theorem not_inManager_of_acts {s : ContextState} {requests : List ContextRequest}
    {p : ContextProgram} (contains : Contains s (.run requests p)) (ends : p.outcome? = none)
    (asks : ∀ cell next, p ≠ .get cell next) (updates : ∀ change next, p ≠ .update change next) :
    ¬ InManager requests := by
  intro inside
  rcases (contains.1.manages inside).acts with ⟨outcome, h⟩ | ⟨cell, next, h⟩ | ⟨change, next, h⟩
  · cases ends.symm.trans h
  · exact asks cell next h
  · exact updates change next h

/-- A tame program goes on. -/
theorem contains_run {s : ContextState} {requests : List ContextRequest} {p : ContextProgram}
    (resuming : Resuming s requests) (outside : ¬ InManager requests) (tame : Tame p) :
    Contains s (.run requests p) :=
  ⟨⟨fun h => absurd h outside, fun _ => tame⟩, resuming⟩

/-- A program that waits for an answer makes a request. -/
theorem contains_ask {s : ContextState} {requests : List ContextRequest} {cell : ComponentId}
    {next : Except AccessError Answer → ContextProgram}
    (contains : Contains s (.run requests (.get cell next))) :
    Contains s (.request .check ⟨cell, next⟩ requests) := by
  obtain ⟨works, resuming⟩ := contains
  refine ⟨⟨⟨fun h => ?_, fun h => ?_, fun h => works.tame h⟩, resuming⟩, trivial⟩
  · cases works.manages h with
    | prepares unstarted _ => exact unstarted
    | settles _ here | stops _ here | succeeds _ here | fails _ here => cases here
  · cases works.manages h with
    | prepares _ prepares =>
      cases prepares with
      | get rest => exact rest
    | settles _ here | stops _ here | succeeds _ here | fails _ here => cases here

/-- A program ends as it was to. -/
theorem contains_ended (m : ContextMachine) {s : ContextState} {requests : List ContextRequest}
    {p : ContextProgram} {outcome : Outcome Failure Answer}
    (contains : Contains s (.run requests p)) (ends : p.outcome? = some outcome) :
    Contains s (m.ended outcome requests) := by
  obtain ⟨works, resuming⟩ := contains
  cases requests with
  | nil => trivial
  | cons r outer =>
    refine ⟨resuming, fun manager => ?_⟩
    have inside : InManager (r :: outer) := congrArg some manager
    cases works.manages inside with
    | prepares unstarted prepares =>
      have stopped := ContextState.stopped_of_empty unstarted
      cases prepares with
      | fail failure =>
        cases ends
        exact .failed stopped
      | panic =>
        cases ends
        exact .panicked stopped
      | get | read | start => cases ends
    | settles one here | stops one here =>
      subst here
      cases ends
    | succeeds one here =>
      subst here
      cases ends
      exact .built one
    | fails stopped here =>
      subst here
      cases ends
      exact .failed stopped

/-- A program turns to the shared state. -/
theorem contains_update {s : ContextState} {requests : List ContextRequest}
    {change : String → ContextState → ContextState} {next : String → ContextState → ContextProgram}
    (once : (requests.map Request.cell).Nodup)
    (contains : Contains s (.run requests (.update change next))) (t : String) :
    Contains (change t s) (.run requests (next t s)) := by
  obtain ⟨works, resuming⟩ := contains
  by_cases inside : InManager requests
  · have outside : ∀ {q}, ¬ InManager requests → Tame q := fun h => absurd inside h
    cases works.manages inside with
    | prepares unstarted prepares =>
      cases prepares with
      | read rest => exact ⟨⟨fun _ => .prepares unstarted (rest t s), outside⟩, resuming⟩
      | @start factory bus =>
        have settles : Manages (s.addManager factory bus) (settling s.managers.length) :=
          .settles (by simp [ContextState.addManager, unstarted]) (by rw [unstarted]; rfl)
        -- The manager is built once, so no request further out is one for it.
        have away : ComponentId.metadataManager ∉ requests.tail.map Request.cell := by
          cases requests with
          | nil => exact List.not_mem_nil
          | cons r outer =>
            have here : r.cell = .metadataManager := Option.some.inj inside
            exact here ▸ (List.nodup_cons.1 once).1
        exact ⟨⟨fun _ => settles, outside⟩, (resuming_iff away).2 ((resuming_iff away).1 resuming)⟩
    | settles one here =>
      obtain ⟨rfl, rfl⟩ := Program.update.inj here
      refine ⟨⟨fun _ => ?_, outside⟩, resuming⟩
      by_cases closed : s.closed = true
      · exact .stops one (if_pos closed)
      · exact .succeeds one (if_neg closed)
    | stops one here =>
      obtain ⟨rfl, rfl⟩ := Program.update.inj here
      have stopped := s.stopped_of_closeManager t one
      exact ⟨⟨fun _ => .fails stopped rfl, outside⟩, resuming.mono (s.tame_closeManager t 0)⟩
    | succeeds _ here | fails _ here => cases here
  · have tame := works.tame inside
    exact contains_run (resuming.mono (tame.1 t s)) inside (tame.2 t s trivial)

/-- What a thread has in hand after its action. -/
theorem contains_turn (contained : m.Contained) (owned : m.roster.Owned) {new : ContextThread}
    (found : m.threads.get? t = some thread) (turn : Turn m t thread m')
    (hnew : m'.threads.get? t = some new) : Contains m'.shared new := by
  have contains := contained.threads t thread found
  cases turn with
  | conclude ends =>
    obtain rfl := get?_setThread_self hnew
    exact contains_ended m contains ends
  | ask =>
    obtain rfl := get?_setThread_self hnew
    exact contains_ask contains
  | look | stack =>
    obtain rfl := get?_setThread_self hnew
    have outside := not_inManager_of_acts contains rfl nofun nofun
    exact contains_run contains.2 outside (contains.1.tame outside _)
  | await =>
    obtain rfl := get?_setThread_self hnew
    have outside := not_inManager_of_acts contains rfl nofun nofun
    exact contains_run contains.2 outside (contains.1.tame outside)
  | @replace requests cell builder next =>
    obtain rfl := get?_setThread_self hnew
    have outside := not_inManager_of_acts contains rfl nofun nofun
    change Contains (m.replace cell builder).2.shared _
    rw [shared_replace]
    exact contains_run contains.2 outside ((contains.1.tame outside).2.2 _)
  | @update requests change next =>
    obtain rfl := get?_setThread_self hnew
    have here : m.roster.posture t = ⟨requests.map Request.cell, .none⟩ := posture_of_get? found
    have once := owned.nodup t
    rw [here] at once
    exact contains_update once contains t
  | reuse | refuse | release | leave =>
    obtain rfl := get?_setThread_self hnew
    exact ⟨contains.1.1.works _, contains.1.2⟩
  | unwind =>
    obtain rfl := get?_setThread_self hnew
    exact ⟨contains.1.1.panics, contains.1.2⟩
  | approach | wait | serve | publish =>
    obtain rfl := get?_setThread_self hnew
    exact ⟨contains.1, trivial⟩
  | @claim r outer builder free =>
    obtain rfl := get?_setThread_self hnew
    refine ⟨contains.1, fun manager => ?_, fun other => ?_⟩
    · have stored := contained.cell
      rwa [← manager, free] at stored
    · exact contained.others r.cell builder other free
  | clear =>
    obtain rfl := get?_setThread_self hnew
    exact contains
  | @enter r outer builder =>
    obtain rfl := get?_setThread_self hnew
    obtain ⟨resuming, manager, other⟩ := contains
    refine ⟨⟨fun inside => ?_, fun outside => other fun h => outside (congrArg some h)⟩, resuming⟩
    obtain ⟨rfl, unstarted⟩ := manager (Option.some.inj inside)
    exact .prepares unstarted prepares_managerBuilder

theorem stored_settled (m : ContextMachine) {s : ContextState} {c : ComponentId}
    {outcome : Outcome AccessError Answer} (managed : Managed s outcome) :
    Stored s (m.settled c outcome) := by
  cases managed with
  | built one => exact ⟨rfl, one⟩
  | failed stopped => exact stopped
  | panicked stopped => exact stopped

/-- While the manager is started its cell is being built, and no other thread is concerned with
it. -/
theorem building_of_inManager (owned : m.roster.Owned) {requests : List ContextRequest}
    {p : ContextProgram} (found : m.threads.get? t = some (.run requests p))
    (inside : InManager requests) :
    m.cells .metadataManager = .building ∧
      ∀ u, u ≠ t → ComponentId.metadataManager ∉ (m.posture u).building := by
  have here : m.posture t = ⟨requests.map Request.cell, .none⟩ := posture_of_get? found
  have held : ComponentId.metadataManager ∈ (m.posture t).building := by
    rw [here]
    exact List.mem_of_head? inside
  refine ⟨(building_iff owned).2 ⟨t, held⟩, fun u hu there => hu ?_⟩
  exact owned.unique u t _ (Posture.held_of_mem_building there) (Posture.held_of_mem_building held)

theorem stored_turn (contained : m.Contained) (owned : m.roster.Owned)
    (found : m.threads.get? t = some thread) (turn : Turn m t thread m') :
    Stored m'.shared (m'.cells .metadataManager) := by
  have contains := contained.threads t thread found
  have change := cellTurn_of_turn turn .metadataManager
  generalize m'.cells .metadataManager = cell at change
  cases change with
  | keep =>
    rcases shared_turn contained found turn with tame | ⟨_, requests, _, _, inside, _, rfl⟩
    · exact contained.cell.mono tame
    · rw [(building_of_inManager owned found inside).1]
      trivial
  | replace here free =>
    subst here
    have outside := not_inManager_of_acts contains rfl nofun nofun
    exact absurd rfl (contains.1.tame outside).1
  | claim => trivial
  | publish here cell =>
    subst here
    have managed := contains.2 cell
    rcases shared_turn contained found turn with tame | ⟨_, _, _, _, _, _, h⟩
    · exact (stored_settled m managed).mono tame
    · cases h

theorem Contained.turn (contained : m.Contained) (owned : m.roster.Owned)
    (found : m.threads.get? t = some thread) (turn : Turn m t thread m') : m'.Contained where
  cell := stored_turn contained owned found turn
  others id builder other hid := by
    rcases empty_turn turn hid with kept | ⟨_, _, _, rfl, _⟩
    · exact contained.others id builder other kept
    · have contains := contained.threads t _ found
      have outside := not_inManager_of_acts contains rfl nofun nofun
      exact (contains.1.tame outside).2.1
  threads := by
    refine forall_threads_turn turn (fun u other hu there => ?_)
      fun new hnew => contains_turn contained owned found turn hnew
    have contains := contained.threads u other there
    rcases shared_turn contained found turn with tame | ⟨_, requests, _, _, inside, _, rfl⟩
    · exact contains.mono tame
    · have away := (building_of_inManager owned found inside).2 u hu
      rw [posture_of_get? there] at away
      exact (contains_iff away).2 ((contains_iff away).1 contains)

/-- Where the manager has its default builder and all else is tame, and nothing has happened. -/
structure Guarded (m : ContextMachine) : Prop where
  fresh : m.Fresh
  unstarted : m.shared.managers = []
  manager : m.cells .metadataManager = .empty managerBuilder
  others : ∀ id builder, id ≠ .metadataManager → m.cells id = .empty builder → Tame builder
  threads : ∀ t program, m.threads.get? t = some (.run [] program) → Tame program

/-- A context whose strategies and calls are tame. -/
theorem guarded_ofAssembly (a : Assembly) (strategies : a.strategies.Tame)
    (threads : Table String ContextThread)
    (calls : ∀ thread ∈ threads.values, ∃ program, thread = .run [] program ∧ Tame program) :
    ({ (Context.ofAssembly a).machine with threads } : ContextMachine).Guarded where
  fresh := by
    refine ⟨fun id => ⟨_, rfl⟩, rfl, fun t thread found => ?_⟩
    obtain ⟨program, rfl, _⟩ := calls thread (Table.mem_values_of_get? found)
    exact ⟨program, rfl⟩
  unstarted := rfl
  manager := rfl
  others id builder other hid := by
    cases hid
    exact a.tame_builder strategies other _ fun _ => trivial
  threads t program found := by
    obtain ⟨_, h, tame⟩ := calls _ (Table.mem_values_of_get? found)
    cases h
    exact tame

theorem Guarded.contained (guarded : m₀.Guarded) : m₀.Contained where
  cell := by
    rw [guarded.manager]
    exact ⟨rfl, guarded.unstarted⟩
  others := guarded.others
  threads t thread found := by
    obtain ⟨program, rfl⟩ := guarded.fresh.threads t thread found
    exact contains_run trivial nofun (guarded.threads t program found)

theorem contained_runSchedule (guarded : m₀.Guarded) (schedule : List String) :
    (m₀.runSchedule schedule).Contained := by
  refine runSchedule_induction (P := Contained) guarded.contained ?_ schedule
  intro before t thread m' contained found turn
  exact contained.turn (owned_runSchedule guarded.fresh before) found turn

end Machine
end ClusterDriver
