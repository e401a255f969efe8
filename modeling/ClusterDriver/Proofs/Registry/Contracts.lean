import ClusterDriver.Proofs.Registry.Refusals
import ClusterDriver.Proofs.Registry.Progress
/-!
# Contracts

What the builders of all cells promise together: for which cells the builder of a cell asks, and
which outcomes a cell may have once certain cells are complete. If every builder keeps the contract
as long as the answers that it gets do, then every answer that any thread gets does, in every
interleaving. A refusal has to keep the contract only for a cell that depends on itself. Nothing is
assumed of the programs that first ask, except that they replace no builder.
-/
namespace ClusterDriver
open Relation

structure Contract (C α : Type) where
  label : C → String
  depends : C → C → Prop
  /-- The cell may have the outcome when the cells of the set are complete. -/
  admits : Set C → C → Except AccessError α → Prop
  admits_mono : ∀ {known known' c result}, known ⊆ known' → admits known c result →
    admits known' c result
  admits_refusal : ∀ known {c} (chain), TransGen depends c c →
    admits known c (.error (.cycle chain))

/-- It replaces no builder. -/
def Program.Steady {T C σ α : Type} : Program T C σ α → Prop :=
  Within fun p => ∀ cell builder next, p ≠ .replace cell builder next

theorem Program.steady_ask {T C σ α : Type} (c : C) : (ask c : Program T C σ α).Steady :=
  within_ask (fun _ _ _ heq => nomatch heq) (fun _ _ _ _ heq => nomatch heq)
    fun _ _ _ _ heq => nomatch heq

namespace Contract
variable {T C σ α : Type} {k : Contract C α} {known known' : Set C} {c d : C}

/-- What is left of the builder of `c`, while the cells of the set are complete, asks for cells that
`c` depends on, and ends within the contract if they are answered within it. Cells may become
complete while it waits for an answer. -/
def Keeps (k : Contract C α) (known : Set C) (c : C) : Program T C σ α → Prop
  | .ok value => k.admits (insert c known) c (.ok value)
  | .fail failure => k.admits (insert c known) c (.error (failure.attributedTo (k.label c)))
  | .panic => False
  | .get d next =>
    k.depends c d ∧ ∀ known', known ⊆ known' → ∀ result, k.admits known' d result →
      k.Keeps known' c (next result)
  | .look _ next => ∀ content, k.Keeps known c (next content)
  | .replace _ _ _ => False
  | .stack next => ∀ cells, k.Keeps known c (next cells)
  | .update _ next => ∀ thread shared, k.Keeps known c (next thread shared)
  | .await _ next => k.Keeps known c next

theorem Keeps.mono {p : Program T C σ α} (sub : known ⊆ known') (keeps : k.Keeps known c p) :
    k.Keeps known' c p := by
  induction p with
  | ok value => exact k.admits_mono (Set.insert_subset_insert sub) keeps
  | fail failure => exact k.admits_mono (Set.insert_subset_insert sub) keeps
  | panic => exact keeps
  | get d next _ => exact ⟨keeps.1, fun later hlater => keeps.2 later (sub.trans hlater)⟩
  | look d next ih => exact fun content => ih content (keeps content)
  | replace d builder next _ _ => exact keeps
  | stack next ih => exact fun cells => ih cells (keeps cells)
  | update change next ih => exact fun thread shared => ih thread shared (keeps thread shared)
  | await gate next ih => exact ih keeps

/-- Requests within each other: every one is made by the builder of the next one's cell, and what
this builder does with an answer within the contract keeps it. -/
inductive Linked (k : Contract C α) (known : Set C) : List (Request T C σ α) → Prop
  | outermost {r} (steady : ∀ result, (r.next result).Steady) : Linked k known [r]
  | inner {r r' outer} (depends : k.depends r'.cell r.cell)
      (keeps : ∀ known', known ⊆ known' → ∀ result, k.admits known' r.cell result →
        k.Keeps known' r'.cell (r.next result))
      (outside : Linked k known (r' :: outer)) : Linked k known (r :: r' :: outer)

theorem Linked.mono {requests : List (Request T C σ α)} (sub : known ⊆ known')
    (linked : k.Linked known requests) : k.Linked known' requests := by
  induction linked with
  | outermost steady => exact .outermost steady
  | inner depends keeps _ ih =>
    exact .inner depends (fun later hlater => keeps later (sub.trans hlater)) ih

/-- The cells around a request depend on its cell. -/
theorem Linked.depends {r : Request T C σ α} {outer : List (Request T C σ α)}
    (linked : k.Linked known (r :: outer)) (hc : c ∈ outer.map Request.cell) :
    TransGen k.depends c r.cell := by
  induction outer generalizing r with
  | nil => cases hc
  | cons r' outer ih =>
    cases linked with
    | inner depends _ outside =>
      rcases List.mem_cons.1 hc with rfl | hc
      · exact .single depends
      · exact (ih outside hc).tail depends

def SoundStage (k : Contract C α) (known : Set C) (c : C) : Stage T C σ α → Prop
  | .check | .register | .inspect => True
  | .served result => k.admits known c result
  | .claimed builder | .cleared builder => k.Keeps known c builder
  | .ended outcome => ∃ result, outcome = .returned result ∧ k.admits (insert c known) c result
  | .published outcome => ∃ result, outcome = .returned result ∧ k.admits known c result

def Sound (k : Contract C α) (known : Set C) : Thread T C σ α → Prop
  | .run [] program => program.Steady
  | .run (r :: outer) program => k.Keeps known r.cell program ∧ k.Linked known (r :: outer)
  | .request stage r outer => k.SoundStage known r.cell stage ∧ k.Linked known (r :: outer)
  | .done _ => True

theorem Sound.mono {thread : Thread T C σ α} (sub : known ⊆ known')
    (sound : k.Sound known thread) : k.Sound known' thread := by
  cases thread with
  | run requests program =>
    cases requests with
    | nil => exact sound
    | cons r outer => exact ⟨sound.1.mono sub, sound.2.mono sub⟩
  | done outcome => trivial
  | request stage r outer =>
    refine ⟨?_, sound.2.mono sub⟩
    cases stage with
    | check | register | inspect => trivial
    | served result => exact k.admits_mono sub sound.1
    | claimed builder | cleared builder => exact Keeps.mono sub sound.1
    | ended outcome =>
      obtain ⟨result, heq, admitted⟩ := sound.1
      exact ⟨result, heq, k.admits_mono (Set.insert_subset_insert sub) admitted⟩
    | published outcome =>
      obtain ⟨result, heq, admitted⟩ := sound.1
      exact ⟨result, heq, k.admits_mono sub admitted⟩

/-- A thread that goes on with an answer within the contract. -/
theorem Linked.answered {r : Request T C σ α} {outer : List (Request T C σ α)}
    (linked : k.Linked known (r :: outer)) {result : Except AccessError α}
    (admitted : k.admits known r.cell result) :
    k.Sound known (.run outer (r.next result)) := by
  cases linked with
  | outermost steady => exact steady result
  | inner _ keeps outside => exact ⟨keeps known subset_rfl result admitted, outside⟩

/-- A thread that goes on with its own program or with the builder that it runs. -/
theorem Sound.continue {requests : List (Request T C σ α)} {p q : Program T C σ α}
    (sound : k.Sound known (.run requests p)) (steady : p.Steady → q.Steady)
    (keeps : ∀ c, k.Keeps known c p → k.Keeps known c q) : k.Sound known (.run requests q) := by
  cases requests with
  | nil => exact steady sound
  | cons r outer => exact ⟨keeps r.cell sound.1, sound.2⟩

/-- A thread that keeps the contract never replaces a builder. -/
theorem Sound.not_replace {requests : List (Request T C σ α)} {builder : Program T C σ α}
    {next : Bool → Program T C σ α} :
    ¬ k.Sound known (.run requests (.replace c builder next)) := by
  intro sound
  cases requests with
  | nil => exact sound.head c builder next rfl
  | cons r outer => exact sound.1

theorem Sound.ask {requests : List (Request T C σ α)}
    {next : Except AccessError α → Program T C σ α}
    (sound : k.Sound known (.run requests (.get c next))) :
    k.Sound known (.request .check ⟨c, next⟩ requests) := by
  cases requests with
  | nil => exact ⟨trivial, .outermost sound.2⟩
  | cons r outer => exact ⟨trivial, .inner sound.1.1 sound.1.2 sound.2⟩

end Contract

namespace Machine
variable {T C σ α : Type} [DecidableEq T] [DecidableEq C] {m m' m₀ : Machine T C σ α} {t : T}
  {k : Contract C α}

/-- The cells that have an outcome. -/
def completed (m : Machine T C σ α) : Set C :=
  {c | ∃ result, (m.content c).outcome? = some result}

theorem completed_turn (owned : m.roster.Owned) {thread : Thread T C σ α}
    (found : m.threads.get? t = some thread) (turn : Turn m t thread m') :
    m.completed ⊆ m'.completed := by
  rintro c ⟨result, complete⟩
  exact ⟨result, outcome_turn owned found turn complete⟩

/-- Every builder still in its cell, every outcome and every thread keeps the contract. -/
structure Keeping (m : Machine T C σ α) (k : Contract C α) : Prop where
  label : m.label = k.label
  builders : ∀ c builder, m.cells c = .empty builder → k.Keeps m.completed c builder
  outcomes : ∀ c result, (m.content c).outcome? = some result → k.admits m.completed c result
  threads : ∀ t thread, m.threads.get? t = some thread → k.Sound m.completed thread

omit [DecidableEq T] [DecidableEq C] in
theorem admits_of_keeps (label : m.label = k.label) {known : Set C} {c : C}
    {program : Program T C σ α} {outcome : Outcome Failure α} (keeps : k.Keeps known c program)
    (ends : program.outcome? = some outcome) :
    ∃ result, m.attributed c outcome = .returned result ∧ k.admits (insert c known) c result := by
  cases program with
  | ok value =>
    obtain rfl := Option.some.inj ends
    exact ⟨.ok value, rfl, keeps⟩
  | fail failure =>
    obtain rfl := Option.some.inj ends
    exact ⟨_, rfl, label ▸ keeps⟩
  | panic => exact keeps.elim
  | get _ _ | look _ _ | replace _ _ _ | stack _ | update _ _ | await _ _ => cases ends

/-- The requests around one that closes a ring belong to builders that depend on its cell. -/
theorem depends_of_awaits (tracked : m.roster.Tracked)
    (sound : ∀ u thread, m.threads.get? u = some thread → k.Sound m.completed thread)
    {r : Request T C σ α} {outer : List (Request T C σ α)}
    (found : m.threads.get? t = some (.request .register r outer)) {u : T}
    (leads : ReflTransGen m.AwaitsBuilder u t) {c : C} (runs : m.RunsBuilder u c) :
    TransGen k.depends c r.cell := by
  induction leads using ReflTransGen.head_induction_on generalizing c with
  | refl =>
    obtain ⟨thread, hthread, hc⟩ := runs
    obtain rfl := Option.some.inj (hthread.symm.trans found)
    exact (sound t _ found).2.depends hc
  | @head u v awaits _ ih =>
    obtain ⟨d, waits, _, runs'⟩ := awaits
    refine TransGen.trans ?_ (ih runs')
    obtain ⟨thread, hthread, hc⟩ := runs
    have awaited : (m.posture u).awaited? = some d := (tracked.waits_on u).symm.trans waits
    rw [posture_of_get? hthread] at awaited
    cases thread with
    | run requests program => cases awaited
    | done outcome => cases awaited
    | request stage r' outer' =>
      have linked := (sound u _ hthread).2
      cases stage with
      | check | register | cleared _ | ended _ | published _ => cases awaited
      | inspect | served _ | claimed _ =>
        cases awaited
        exact linked.depends hc

/-- A request is refused only for a cell that depends on itself. -/
theorem depends_of_refused (owned : m.roster.Owned) (tracked : m.roster.Tracked)
    (sound : ∀ u thread, m.threads.get? u = some thread → k.Sound m.completed thread)
    {r : Request T C σ α} {outer : List (Request T C σ α)} {chain : List C}
    (found : m.threads.get? t = some (.request .register r outer))
    (refused : m.detector.request t r.cell = .error chain) :
    TransGen k.depends r.cell r.cell := by
  obtain ⟨first, _, runs, leads⟩ := leads_of_refused owned tracked found refused
  exact depends_of_awaits tracked sound found leads runs

omit [DecidableEq T] [DecidableEq C] in
theorem sound_conclude (label : m.label = k.label) {known : Set C}
    {requests : List (Request T C σ α)} {program : Program T C σ α} {outcome : Outcome Failure α}
    (sound : k.Sound known (.run requests program)) (ends : program.outcome? = some outcome) :
    k.Sound known (m.ended outcome requests) := by
  cases requests with
  | nil => trivial
  | cons r outer => exact ⟨admits_of_keeps label sound.1 ends, sound.2⟩

theorem sound_turn (keeping : m.Keeping k) (owned : m.roster.Owned) {thread new : Thread T C σ α}
    (found : m.threads.get? t = some thread) (turn : Turn m t thread m')
    (refusal : ∀ r outer chain, thread = .request .register r outer →
      m.detector.request t r.cell = .error chain → TransGen k.depends r.cell r.cell)
    (hnew : m'.threads.get? t = some new) : k.Sound m'.completed new := by
  have grown := completed_turn owned found turn
  have sound := (keeping.threads t thread found).mono grown
  cases turn with
  | conclude ends =>
    obtain rfl := get?_setThread_self hnew
    exact sound_conclude keeping.label sound ends
  | ask =>
    obtain rfl := get?_setThread_self hnew
    exact sound.ask
  | look =>
    obtain rfl := get?_setThread_self hnew
    exact sound.continue (fun steady => steady.2 _) fun _ keeps => keeps _
  | replace => exact sound.not_replace.elim
  | stack =>
    obtain rfl := get?_setThread_self hnew
    exact sound.continue (fun steady => steady.2 _) fun _ keeps => keeps _
  | update =>
    obtain rfl := get?_setThread_self hnew
    exact sound.continue (fun steady => steady.2 _ _) fun _ keeps => keeps _ _
  | await _ =>
    obtain rfl := get?_setThread_self hnew
    exact sound.continue (fun steady => steady.2) fun _ keeps => keeps
  | reuse complete =>
    obtain rfl := get?_setThread_self hnew
    exact sound.2.answered (k.admits_mono grown (keeping.outcomes _ _ complete))
  | @refuse r outer chain refused =>
    obtain rfl := get?_setThread_self hnew
    exact sound.2.answered (k.admits_refusal _ _ (refusal r outer chain rfl refused))
  | approach _ | wait _ =>
    obtain rfl := get?_setThread_self hnew
    exact ⟨trivial, sound.2⟩
  | serve complete =>
    obtain rfl := get?_setThread_self hnew
    exact ⟨k.admits_mono grown (keeping.outcomes _ _ complete), sound.2⟩
  | claim free =>
    obtain rfl := get?_setThread_self hnew
    exact ⟨(keeping.builders _ _ free).mono grown, sound.2⟩
  | release =>
    obtain rfl := get?_setThread_self hnew
    exact sound.2.answered sound.1
  | clear | enter =>
    obtain rfl := get?_setThread_self hnew
    exact sound
  | @publish r outer outcome =>
    obtain rfl := get?_setThread_self hnew
    obtain ⟨result, heq, admitted⟩ := sound.1
    refine ⟨⟨result, heq, k.admits_mono (Set.insert_subset ?_ subset_rfl) admitted⟩, sound.2⟩
    exact ⟨result, by simp [content, setThread, setCell, heq, outcome_settled_returned]⟩
  | leave =>
    obtain rfl := get?_setThread_self hnew
    obtain ⟨result, heq, admitted⟩ := sound.1
    cases heq
    exact sound.2.answered admitted
  | unwind =>
    obtain ⟨result, heq, _⟩ := sound.1
    cases heq

theorem Keeping.turn (keeping : m.Keeping k) (owned : m.roster.Owned) {thread : Thread T C σ α}
    (found : m.threads.get? t = some thread) (turn : Turn m t thread m')
    (refusal : ∀ r outer chain, thread = .request .register r outer →
      m.detector.request t r.cell = .error chain → TransGen k.depends r.cell r.cell) :
    m'.Keeping k := by
  have grown := completed_turn owned found turn
  have sound := keeping.threads t thread found
  constructor
  · exact (label_turn turn).trans keeping.label
  · intro c builder hc
    have change := cellTurn_of_turn turn c
    rw [hc] at change
    generalize hcell : Cell.empty builder = cell at change
    cases change with
    | keep => exact (keeping.builders c builder hcell.symm).mono grown
    | replace here free => exact (here ▸ sound).not_replace.elim
    | claim _ _ _ => cases hcell
    | @publish r outer outcome _ _ =>
      cases outcome with
      | panicked => cases hcell
      | returned result => cases result <;> cases hcell
  · intro c result complete
    have change := cellTurn_of_turn turn c
    have known : insert c m.completed ⊆ m'.completed :=
      Set.insert_subset ⟨result, complete⟩ grown
    generalize hcell : m'.cells c = cell at change
    simp only [content, hcell] at complete
    cases change with
    | keep => exact k.admits_mono grown (keeping.outcomes c result complete)
    | replace here free => exact (here ▸ sound).not_replace.elim
    | claim here cell free => cases complete
    | @publish r outer outcome here cell =>
      subst here cell
      obtain ⟨result', rfl, admitted⟩ := sound.1
      rw [outcome_settled_returned] at complete
      obtain rfl := Option.some.inj complete
      exact k.admits_mono known admitted
  · refine forall_threads_turn turn ?_ ?_
    · exact fun u other _ hu => (keeping.threads u other hu).mono grown
    · exact fun new hnew => sound_turn keeping owned found turn refusal hnew

/-- The programs that first ask replace no builder, and the builders keep the contract. -/
structure Under (m : Machine T C σ α) (k : Contract C α) : Prop where
  label : m.label = k.label
  callers : ∀ t program, m.threads.get? t = some (.run [] program) → program.Steady
  builders : ∀ c builder, m.cells c = .empty builder → k.Keeps ∅ c builder

omit [DecidableEq C] in
theorem Under.keeping (under : m.Under k) (fresh : m.Fresh) : m.Keeping k where
  label := under.label
  builders c builder hc := (under.builders c builder hc).mono (Set.empty_subset _)
  outcomes c result complete := by
    obtain ⟨builder, hc⟩ := fresh.cells c
    simp [content, hc, Cell.content, Content.outcome?] at complete
  threads t thread found := by
    obtain ⟨program, rfl⟩ := fresh.threads t thread found
    exact under.callers t program found

theorem Keeping.depends_of_refused (fresh : m₀.Fresh) {schedule : List T}
    (keeping : (m₀.runSchedule schedule).Keeping k) {r : Request T C σ α}
    {outer : List (Request T C σ α)} {chain : List C}
    (found : (m₀.runSchedule schedule).threads.get? t = some (.request .register r outer))
    (refused : (m₀.runSchedule schedule).detector.request t r.cell = .error chain) :
    TransGen k.depends r.cell r.cell := by
  have enabled : m₀.detector.isEnabled = true :=
    (isEnabled_runSchedule m₀ schedule).symm.trans (enabled_of_refused refused)
  exact Machine.depends_of_refused (owned_runSchedule fresh schedule)
    (tracked_runSchedule fresh enabled schedule) keeping.threads found refused

/-- Nothing is refused of a cell that does not depend on itself. -/
theorem Keeping.request_allowed (fresh : m₀.Fresh) {schedule : List T}
    (keeping : (m₀.runSchedule schedule).Keeping k) {r : Request T C σ α}
    {outer : List (Request T C σ α)}
    (found : (m₀.runSchedule schedule).threads.get? t = some (.request .register r outer))
    (free : ¬ TransGen k.depends r.cell r.cell) :
    ∃ detector, (m₀.runSchedule schedule).detector.request t r.cell = .ok detector := by
  cases hrequest : (m₀.runSchedule schedule).detector.request t r.cell with
  | ok detector => exact ⟨detector, rfl⟩
  | error chain => exact absurd (keeping.depends_of_refused fresh found hrequest) free

/-- The contract is kept in every run, with detection on or off. -/
theorem keeping_runSchedule (fresh : m₀.Fresh) (under : m₀.Under k) (schedule : List T) :
    (m₀.runSchedule schedule).Keeping k := by
  refine runSchedule_induction (P := fun m => m.Keeping k) (under.keeping fresh) ?_ schedule
  intro before t thread m' keeping found turn
  refine keeping.turn (owned_runSchedule fresh before) found turn ?_
  rintro r outer chain rfl refused
  exact keeping.depends_of_refused fresh found refused

/-- Every answer is within the contract. -/
theorem admits_of_answer (fresh : m₀.Fresh) (under : m₀.Under k) (schedule : List T) {c : C}
    {result : Except AccessError α}
    (answered : (m₀.runSchedule schedule).answer? t = some (c, result)) :
    k.admits (m₀.runSchedule schedule).completed c result := by
  have keeping := keeping_runSchedule fresh under schedule
  unfold answer? at answered
  split at answered
  · obtain ⟨_, complete, heq⟩ := Option.map_eq_some_iff.1 answered
    cases heq
    exact keeping.outcomes _ _ complete
  · next r outer found =>
    split at answered
    · next chain refused =>
      cases answered
      exact k.admits_refusal _ _ (keeping.depends_of_refused fresh found refused)
    · cases answered
  · next found =>
    cases answered
    exact (keeping.threads t _ found).1
  · next found =>
    cases answered
    obtain ⟨result, heq, admitted⟩ := (keeping.threads t _ found).1
    cases heq
    exact admitted
  · cases answered

end Machine
end ClusterDriver
