import ClusterDriver.Proofs.Registry.Calls
import ClusterDriver.Proofs.Registry.Contracts
/-!
# Callers

What becomes of a program that asks first, when every answer is within a contract. It may ask again
after each answer, and other threads act in between. What it ensures when it ends may speak of the
cells that are complete by then.
-/
namespace ClusterDriver

namespace Contract
variable {T C σ α : Type} {k : Contract C α} {known known' : Set C} {c : C} {asks : C → Prop}
  {post : Set C → Outcome Failure α → Prop}

/-- While the cells of the set are complete, what is left of the program asks for cells of one
kind only, and ends as `post` says if it is answered within the contract. -/
def Ensures (k : Contract C α) (asks : C → Prop) (post : Set C → Outcome Failure α → Prop)
    (known : Set C) : Program T C σ α → Prop
  | .ok value => post known (.returned (.ok value))
  | .fail failure => post known (.returned (.error failure))
  | .panic => post known .panicked
  | .get d next =>
    asks d ∧ ∀ known', known ⊆ known' → ∀ result, k.admits known' d result →
      k.Ensures asks post known' (next result)
  | .look _ next => ∀ content, k.Ensures asks post known (next content)
  | .replace _ _ _ => False
  | .stack next => ∀ cells, k.Ensures asks post known (next cells)
  | .update _ next => ∀ thread shared, k.Ensures asks post known (next thread shared)
  | .await _ next => k.Ensures asks post known next

/-- What is said of an outcome stays true when more cells are complete. -/
def Lasting (post : Set C → Outcome Failure α → Prop) : Prop :=
  ∀ known known' outcome, known ⊆ known' → post known outcome → post known' outcome

theorem Ensures.mono {p : Program T C σ α} (lasting : Lasting post) (sub : known ⊆ known')
    (ensures : k.Ensures asks post known p) : k.Ensures asks post known' p := by
  induction p with
  | ok _ | fail _ | panic => exact lasting known known' _ sub ensures
  | get d next _ => exact ⟨ensures.1, fun later hlater => ensures.2 later (sub.trans hlater)⟩
  | look d next ih => exact fun content => ih content (ensures content)
  | replace d builder next _ _ => exact ensures
  | stack next ih => exact fun cells => ih cells (ensures cells)
  | update change next ih => exact fun thread shared => ih thread shared (ensures thread shared)
  | await gate next ih => exact ih ensures

theorem Ensures.outcome {p : Program T C σ α} {outcome : Outcome Failure α}
    (ensures : k.Ensures asks post known p) (ends : p.outcome? = some outcome) :
    post known outcome := by
  cases p with
  | ok _ | fail _ | panic => exact Option.some.inj ends ▸ ensures
  | get _ _ | look _ _ | replace _ _ _ | stack _ | update _ _ | await _ _ => cases ends

/-- An outcome by which the builder of `c` keeps the contract. -/
def Delivers (k : Contract C α) (c : C) (known : Set C) : Outcome Failure α → Prop
  | .returned (.ok value) => k.admits (insert c known) c (.ok value)
  | .returned (.error failure) =>
    k.admits (insert c known) c (.error (failure.attributedTo (k.label c)))
  | .panicked => False

theorem keeps_of_ensures {p : Program T C σ α}
    (ensures : k.Ensures (k.depends c) (k.Delivers c) known p) : k.Keeps known c p := by
  induction p generalizing known with
  | ok _ | fail _ | panic => exact ensures
  | get d next ih =>
    exact ⟨ensures.1, fun later sub result admitted =>
      ih result (ensures.2 later sub result admitted)⟩
  | look d next ih => exact fun content => ih content (ensures content)
  | replace d builder next _ _ => exact ensures
  | stack next ih => exact fun cells => ih cells (ensures cells)
  | update change next ih => exact fun thread shared => ih thread shared (ensures thread shared)
  | await gate next ih => exact ih ensures

/-- What the outermost request of a thread owes to `post`. -/
def Promised (k : Contract C α) (post : Set C → Outcome Failure α → Prop) (known : Set C)
    (r : Request T C σ α) : Prop :=
  ∀ known', known ⊆ known' → ∀ result, k.admits known' r.cell result →
    k.Ensures (fun _ => True) post known' (r.next result)

/-- What a thread owes to `post`, wherever it is. -/
def Owes (k : Contract C α) (post : Set C → Outcome Failure α → Prop) (known : Set C) :
    Thread T C σ α → Prop
  | .run [] program => k.Ensures (fun _ => True) post known program
  | .run (r :: outer) _ | .request _ r outer =>
    ∀ last ∈ (r :: outer).getLast?, k.Promised post known last
  | .done outcome => post known outcome

theorem Owes.mono {thread : Thread T C σ α} (lasting : Lasting post) (sub : known ⊆ known')
    (owes : k.Owes post known thread) : k.Owes post known' thread := by
  cases thread with
  | run requests program =>
    cases requests with
    | nil => exact Ensures.mono lasting sub owes
    | cons r outer => exact fun last hlast later hlater => owes last hlast later (sub.trans hlater)
  | request stage r outer =>
    exact fun last hlast later hlater => owes last hlast later (sub.trans hlater)
  | done outcome => exact lasting known known' outcome sub owes

/-- A thread that goes on with its own program, or with a builder that it runs. -/
theorem Owes.continue {requests : List (Request T C σ α)} {p q : Program T C σ α}
    (owes : k.Owes post known (.run requests p))
    (goesOn : k.Ensures (fun _ => True) post known p → k.Ensures (fun _ => True) post known q) :
    k.Owes post known (.run requests q) := by
  cases requests with
  | nil => exact goesOn owes
  | cons r outer => exact owes

theorem Owes.ask {requests : List (Request T C σ α)}
    {next : Except AccessError α → Program T C σ α}
    (owes : k.Owes post known (.run requests (.get c next))) :
    k.Owes post known (.request .check ⟨c, next⟩ requests) := by
  cases requests with
  | nil =>
    rintro last hlast
    obtain rfl := Option.some.inj hlast
    exact owes.2
  | cons r outer => exact fun last hlast => owes last (by simpa using hlast)

/-- Only an answer to the outermost request matters. -/
theorem Owes.answered {stage : Stage T C σ α} {r : Request T C σ α}
    {outer : List (Request T C σ α)} (owes : k.Owes post known (.request stage r outer))
    {result : Except AccessError α} (admitted : k.admits known r.cell result) :
    k.Owes post known (.run outer (r.next result)) := by
  cases outer with
  | nil => exact owes r rfl known subset_rfl result admitted
  | cons r' outer => exact fun last hlast => owes last (by simpa using hlast)

end Contract

namespace Machine
variable {T C σ α : Type} [DecidableEq T] [DecidableEq C] {m m' m₀ : Machine T C σ α} {t : T}
  {k : Contract C α} {post : Set C → Outcome Failure α → Prop}

omit [DecidableEq T] [DecidableEq C] in
theorem owes_ended {known : Set C} {requests : List (Request T C σ α)} {program : Program T C σ α}
    {outcome : Outcome Failure α} (owes : k.Owes post known (.run requests program))
    (ends : program.outcome? = some outcome) : k.Owes post known (m.ended outcome requests) := by
  cases requests with
  | nil => exact Contract.Ensures.outcome owes ends
  | cons r outer => exact owes

theorem owes_turn {thread new : Thread T C σ α} (found : m.threads.get? t = some thread)
    (answers : ∀ c result, m.answer? t = some (c, result) → k.admits m.completed c result)
    (sound : k.Sound m.completed thread) (owes : k.Owes post m.completed thread)
    (turn : Turn m t thread m') (hnew : m'.threads.get? t = some new) :
    k.Owes post m.completed new := by
  cases turn with
  | conclude ends =>
    obtain rfl := get?_setThread_self hnew
    exact owes_ended owes ends
  | ask =>
    obtain rfl := get?_setThread_self hnew
    exact owes.ask
  | look =>
    obtain rfl := get?_setThread_self hnew
    exact owes.continue fun ensures => ensures _
  | replace => exact sound.not_replace.elim
  | stack =>
    obtain rfl := get?_setThread_self hnew
    exact owes.continue fun ensures => ensures _
  | update =>
    obtain rfl := get?_setThread_self hnew
    exact owes.continue fun ensures => ensures _ _
  | await _ =>
    obtain rfl := get?_setThread_self hnew
    exact owes.continue id
  | reuse complete =>
    obtain rfl := get?_setThread_self hnew
    exact owes.answered (answers _ _ (by simp [answer?, found, complete]))
  | refuse refused =>
    obtain rfl := get?_setThread_self hnew
    exact owes.answered (answers _ _ (by simp [answer?, found, refused]))
  | release | leave =>
    obtain rfl := get?_setThread_self hnew
    exact owes.answered (answers _ _ (by simp [answer?, found]))
  | approach _ | wait _ | serve _ | claim _ | clear | enter | publish =>
    obtain rfl := get?_setThread_self hnew
    exact owes
  | unwind =>
    obtain ⟨result, heq, _⟩ := sound.1
    cases heq

theorem owes_runSchedule (fresh : m₀.Fresh) (under : m₀.Under k) (lasting : Contract.Lasting post)
    {program : Program T C σ α} (found : m₀.threads.get? t = some (.run [] program))
    (ensures : k.Ensures (fun _ => True) post ∅ program) (schedule : List T) :
    ∀ thread, (m₀.runSchedule schedule).threads.get? t = some thread →
      k.Owes post (m₀.runSchedule schedule).completed thread := by
  refine schedule_induction m₀ (P := fun before => ∀ thread,
    (m₀.runSchedule before).threads.get? t = some thread →
      k.Owes post (m₀.runSchedule before).completed thread) ?_ ?_ ?_ schedule
  · intro thread here
    obtain rfl := Option.some.inj (here.symm.trans found)
    exact ensures.mono lasting (Set.empty_subset _)
  · intro before u owes _ same
    rwa [same]
  · intro before u thread owes there turn new hnew
    have grown := completed_turn (owned_runSchedule fresh before) there turn
    by_cases hu : t = u
    · subst hu
      have sound := (keeping_runSchedule fresh under before).threads t thread there
      have still := owes_turn there (fun _ _ => admits_of_answer fresh under before) sound
        (owes thread there) turn hnew
      exact still.mono lasting grown
    · exact (owes new (threads_turn turn hu ▸ hnew)).mono lasting grown

/-- A caller ends as its program ensures. -/
theorem post_of_done (fresh : m₀.Fresh) (under : m₀.Under k) (lasting : Contract.Lasting post)
    {program : Program T C σ α} (found : m₀.threads.get? t = some (.run [] program))
    (ensures : k.Ensures (fun _ => True) post ∅ program) {schedule : List T}
    {outcome : Outcome Failure α}
    (done : (m₀.runSchedule schedule).threads.get? t = some (.done outcome)) :
    post (m₀.runSchedule schedule).completed outcome :=
  owes_runSchedule fresh under lasting found ensures schedule _ done

end Machine
end ClusterDriver
