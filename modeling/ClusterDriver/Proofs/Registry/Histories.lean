import ClusterDriver.Proofs.Registry.Calls
import ClusterDriver.Proofs.Registry.Contracts
/-!
# Histories

Which cells the threads asked for, and whose builders were run, in the course of a schedule. Every
builder is run at most once. Where the builders keep a contract, a cell is taken only on behalf of a
cell that a thread asked for, and a thread that is not inside a request any more was answered within
the contract.
-/
namespace ClusterDriver
open Relation

/-- The cell that the thread has claimed and not entered. -/
def Posture.starting? {C : Type} (p : Posture C) : Option C :=
  match p.activity with
  | .claimed c | .cleared c => some c
  | _ => none

section
variable {C : Type} {cells : List C} {c : C}

@[simp] theorem Posture.starting_none : (⟨cells, .none⟩ : Posture C).starting? = none := rfl

@[simp] theorem Posture.starting_waiting :
    (⟨cells, .waiting c⟩ : Posture C).starting? = none := rfl

@[simp] theorem Posture.starting_claimed :
    (⟨cells, .claimed c⟩ : Posture C).starting? = some c := rfl

@[simp] theorem Posture.starting_cleared :
    (⟨cells, .cleared c⟩ : Posture C).starting? = some c := rfl

@[simp] theorem Posture.starting_published :
    (⟨cells, .published⟩ : Posture C).starting? = none := rfl

end

theorem Posture.building_of_starting {C : Type} {p : Posture C} {c : C}
    (starting : p.starting? = some c) : c ∈ p.building := by
  cases hp : p.activity with
  | claimed d | cleared d =>
    obtain rfl : d = c := by simpa [starting?, hp] using starting
    simp [building, held, hp]
  | none | waiting d | published => simp [starting?, hp] at starting

/-- The builder of the cell has been run, or is being run. -/
def Roster.Entered {T C : Type} (s : Roster T C) (c : C) : Prop :=
  s.status c ≠ .empty ∧ ∀ t, (s.posture t).starting? ≠ some c

namespace Roster
variable {T C : Type} [DecidableEq T] [DecidableEq C] {s s' : Roster T C} {t : T} {c : C}

omit [DecidableEq C] in
theorem entered_of_same {p : Posture C}
    (starting : p.starting? = some c ↔ (s.posture t).starting? = some c)
    (posture : s'.posture = Function.update s.posture t p)
    (status : s'.status c = .empty ↔ s.status c = .empty) :
    s'.Entered c ↔ s.Entered c ∨
      (s.posture t).starting? = some c ∧ (s'.posture t).starting? = none := by
  have same : ∀ u, (s'.posture u).starting? = some c ↔ (s.posture u).starting? = some c := by
    intro u
    rw [posture]
    by_cases hu : u = t
    · subst hu
      simpa using starting
    · simp [hu]
  have idle : ¬ ((s.posture t).starting? = some c ∧ (s'.posture t).starting? = none) := by
    rintro ⟨before, after⟩
    rw [(same t).2 before] at after
    cases after
  simp only [Entered, ne_eq, same, status, idle, or_false]

/-- A cell is entered by the thread that was to start it, and nothing else changes this. -/
theorem entered_move (owned : s.Owned) (move : Move t s s') :
    s'.Entered c ↔ s.Entered c ∨
      (s.posture t).starting? = some c ∧ (s'.posture t).starting? = none := by
  cases move with
  | pass => exact entered_of_same Iff.rfl (Function.update_eq_self t s.posture).symm Iff.rfl
  | wait here _ => exact entered_of_same (by simp [here]) rfl Iff.rfl
  | release here => exact entered_of_same (by simp [here]) rfl Iff.rfl
  | clear here => exact entered_of_same (by simp [here]) rfl Iff.rfl
  | leave here => exact entered_of_same (by simp [here]) rfl Iff.rfl
  | @publish cells d status here complete =>
    refine entered_of_same (by simp [here]) rfl ?_
    by_cases hcd : c = d
    · subst hcd
      have started := owned.started t c (by simp [here, Posture.held])
      rcases complete with rfl | rfl <;> simp [started]
    · simp [hcd]
  | @claim cells d here free =>
    by_cases hcd : c = d
    · subst hcd
      have before : ¬ s.Entered c := fun entered => entered.1 free
      have after : ∀ status, ¬ Entered { s with
          posture := Function.update s.posture t ⟨cells, .claimed c⟩
          status := status } c :=
        fun status entered => entered.2 t (by simp)
      simp [before, after, here]
    · exact entered_of_same (by simp [here, Ne.symm hcd]) rfl (by simp [hcd])
  | @enter cells d here =>
    by_cases hcd : c = d
    · subst hcd
      have held : c ∈ (s.posture t).held := by simp [here, Posture.held]
      have alone : ∀ u, (Function.update s.posture t ⟨c :: cells, .none⟩ u).starting? ≠ some c := by
        intro u
        by_cases hu : u = t
        · subst hu
          simp
        · rw [Function.update_of_ne hu]
          intro starting
          have held' := Posture.held_of_mem_building (Posture.building_of_starting starting)
          exact hu (owned.unique u t c held' held)
      simp [Entered, alone, owned.started t c held, here]
    · exact entered_of_same (by simp [here, Ne.symm hcd]) rfl Iff.rfl

end Roster

namespace Machine
variable {T C σ α : Type} [DecidableEq T] [DecidableEq C] {m m' m₀ : Machine T C σ α} {t : T}

/-- What is seen of the actions of a schedule, in their order. -/
def observed {β : Type} (look : Machine T C σ α → T → Option β) (m : Machine T C σ α) :
    List T → List β
  | [] => []
  | t :: rest => (look m t).toList ++ observed look ((m.step t).getD m) rest

theorem observed_concat {β : Type} (look : Machine T C σ α → T → Option β)
    (m : Machine T C σ α) (schedule : List T) (t : T) :
    observed look m (schedule ++ [t]) =
      observed look m schedule ++ (look (m.runSchedule schedule) t).toList := by
  induction schedule generalizing m with
  | nil => simp [observed, runSchedule]
  | cons u rest ih =>
    simp only [List.cons_append, observed, ih, List.append_assoc]
    rfl

/-- The cell whose builder the next action of `t` begins to run, if it does. -/
def begun? (m : Machine T C σ α) (t : T) : Option C :=
  match m.threads.get? t with
  | some (.request (.cleared _) r _) => some r.cell
  | _ => none

/-- The cells whose builders were run in the course of a schedule. -/
def invocations (m₀ : Machine T C σ α) (schedule : List T) : List C :=
  observed begun? m₀ schedule

theorem begun_of_stuck (stuck : m.step t = none) : m.begun? t = none := by
  unfold begun?
  split
  · next found => simp [step, found, requestStep] at stuck
  · rfl

omit [DecidableEq C] in
theorem posture_setThread_self (m : Machine T C σ α) (t : T) (thread : Thread T C σ α) :
    (m.setThread t thread).posture t = thread.posture := by
  simp [posture_setThread]

theorem begun_turn {thread : Thread T C σ α} (found : m.threads.get? t = some thread)
    (turn : Turn m t thread m') (c : C) :
    m.begun? t = some c ↔ (m.posture t).starting? = some c ∧ (m'.posture t).starting? = none := by
  rw [posture_of_get? found]
  simp only [begun?, found]
  cases turn with
  | enter => simp [posture_setThread_self, Thread.posture, Posture.starting?]
  | clear => simp [posture_setThread_self, Thread.posture, Posture.starting?]
  | conclude | ask | look | replace | stack | update | await | reuse | approach | refuse | wait
  | serve | claim | release | publish | leave | unwind => simp [Thread.posture, Posture.starting?]

theorem entered_turn (owned : m.roster.Owned) {thread : Thread T C σ α}
    (found : m.threads.get? t = some thread) (turn : Turn m t thread m') {c : C} :
    m'.roster.Entered c ↔ m.roster.Entered c ∨ m.begun? t = some c := by
  rw [begun_turn found turn]
  exact Roster.entered_move owned (roster_turn found turn)

/-- No builder is run twice. -/
theorem invocations_nodup (fresh : m₀.Fresh) (schedule : List T) :
    (m₀.invocations schedule).Nodup ∧
      ∀ c, c ∈ m₀.invocations schedule ↔ (m₀.runSchedule schedule).roster.Entered c := by
  refine schedule_induction m₀ (P := fun before => (m₀.invocations before).Nodup ∧
    ∀ c, c ∈ m₀.invocations before ↔ (m₀.runSchedule before).roster.Entered c) ?_ ?_ ?_ schedule
  · refine ⟨.nil, fun c => ⟨fun h => (nomatch h), fun entered => ?_⟩⟩
    exact absurd (fresh.status c) entered.1
  · intro before t past stuck same
    simpa [invocations, observed_concat, begun_of_stuck stuck, same] using past
  · intro before t thread past found turn
    have owned := owned_runSchedule fresh before
    have grown : m₀.invocations (before ++ [t]) =
        m₀.invocations before ++ ((m₀.runSchedule before).begun? t).toList :=
      observed_concat begun? m₀ before t
    refine ⟨?_, fun c => ?_⟩
    · rw [grown]
      cases hbegun : (m₀.runSchedule before).begun? t with
      | none => simpa using past.1
      | some c =>
        have starting := ((begun_turn found turn c).1 hbegun).1
        have new : c ∉ m₀.invocations before := fun old => ((past.2 c).1 old).2 t starting
        rw [Option.toList_some, List.nodup_append]
        refine ⟨past.1, List.nodup_singleton c, ?_⟩
        rintro d hd e he rfl
        exact new (List.mem_singleton.1 he ▸ hd)
    · rw [grown, List.mem_append, past.2, entered_turn owned found turn, Option.mem_toList]

/-- The cell that the next action of `t` asks for, when `t` is not inside a request. -/
def asked? (m : Machine T C σ α) (t : T) : Option C :=
  match m.threads.get? t with
  | some (.run [] (.get cell _)) => some cell
  | _ => none

/-- The cells that the threads themselves asked for in the course of a schedule. -/
def requested (m₀ : Machine T C σ α) (schedule : List T) : List C :=
  observed asked? m₀ schedule

theorem asked_of_stuck (stuck : m.step t = none) : m.asked? t = none := by
  unfold asked?
  split
  · next found => simp [step, found, runStep] at stuck
  · rfl

/-- The request of `t` itself, that all its other requests under way are made for. -/
def outermost? (m : Machine T C σ α) (t : T) : Option C :=
  (m.threads.get? t).bind fun thread => (thread.calls.map Request.cell).getLast?

omit [DecidableEq C] in
theorem outermost_of_get? {thread : Thread T C σ α} (found : m.threads.get? t = some thread) :
    m.outermost? t = (thread.calls.map Request.cell).getLast? := by
  simp [outermost?, found]

theorem outermost_of_asked {thread : Thread T C σ α} (found : m.threads.get? t = some thread)
    (turn : Turn m t thread m') {c : C} (asked : m.asked? t = some c) :
    m'.outermost? t = some c := by
  simp only [asked?, found] at asked
  split at asked
  · next heq =>
    cases asked
    cases heq
    cases turn with
    | conclude ends => cases ends
    | ask => simp [outermost?, setThread, Thread.calls]
  · cases asked

/-- An outermost request is one that was under way, or one that was just made. -/
theorem outermost_new {thread : Thread T C σ α} (found : m.threads.get? t = some thread)
    (turn : Turn m t thread m') {c : C} (outermost : m'.outermost? t = some c) :
    m.outermost? t = some c ∨ m.asked? t = some c := by
  obtain ⟨new, hnew⟩ := present_of_turn turn
  rw [outermost_of_get? hnew] at outermost
  rw [outermost_of_get? found]
  cases callTurn_of_turn found turn hnew with
  | keep same => exact Or.inl (same ▸ outermost)
  | @ask requests cell next here =>
    subst here
    cases requests with
    | nil => exact Or.inr (by simpa [asked?, found, Thread.calls] using outermost)
    | cons r outer => exact Or.inl (by simpa [Thread.calls] using outermost)
  | @answer r outer result here answered =>
    rw [here]
    cases outer with
    | nil => simp [Thread.calls] at outermost
    | cons r' outer => exact Or.inl (by simpa [Thread.calls] using outermost)
  | @unwind r outer here =>
    subst here
    cases outer with
    | nil => simp [Thread.calls] at outermost
    | cons r' outer => exact Or.inl (by simpa [Thread.calls] using outermost)

/-- An outermost request stays under way until it comes to an end. -/
theorem outermost_old {thread : Thread T C σ α} (found : m.threads.get? t = some thread)
    (turn : Turn m t thread m') {c : C} (outermost : m.outermost? t = some c) :
    m'.outermost? t = some c ∨ (∃ result, m.answer? t = some (c, result)) ∨
      ∃ r outer, thread = .request (.published .panicked) r outer := by
  obtain ⟨new, hnew⟩ := present_of_turn turn
  rw [outermost_of_get? found] at outermost
  rw [outermost_of_get? hnew]
  cases callTurn_of_turn found turn hnew with
  | keep same => exact Or.inl (same ▸ outermost)
  | @ask requests cell next here =>
    subst here
    cases requests with
    | nil => simp [Thread.calls] at outermost
    | cons r outer => exact Or.inl (by simpa [Thread.calls] using outermost)
  | @answer r outer result here answered =>
    rw [here] at outermost
    cases outer with
    | nil =>
      obtain rfl : r.cell = c := by simpa using outermost
      exact Or.inr (Or.inl ⟨result, answered⟩)
    | cons r' outer => exact Or.inl (by simpa [Thread.calls] using outermost)
  | @unwind r outer here => exact Or.inr (Or.inr ⟨r, outer, here⟩)

variable {k : Contract C α}

/-- What the threads asked for accounts for all that was done. -/
structure Accounted (m : Machine T C σ α) (k : Contract C α) (requested : List C) : Prop where
  made : ∀ t c, m.outermost? t = some c → c ∈ requested
  answered : ∀ c ∈ requested,
    (∃ result, k.admits m.completed c result) ∨ ∃ t, m.outermost? t = some c
  reached : ∀ c, m.roster.status c ≠ .empty → ∃ d ∈ requested, ReflTransGen k.depends d c

theorem outermost_of_ne {thread : Thread T C σ α} (turn : Turn m t thread m') {u : T} (hu : u ≠ t) :
    m'.outermost? u = m.outermost? u := by
  simp only [outermost?, threads_turn turn hu]

/-- A cell is taken for the outermost request of the thread that takes it. -/
theorem reached_turn (keeping : m.Keeping k) (owned : m.roster.Owned) {thread : Thread T C σ α}
    (found : m.threads.get? t = some thread) (turn : Turn m t thread m') {c : C}
    (before : m.roster.status c = .empty) (after : m'.roster.status c ≠ .empty) :
    ∃ d, m.outermost? t = some d ∧ ReflTransGen k.depends d c := by
  have change := cellTurn_of_turn turn c
  have same : m'.roster.status c = (m'.cells c).content.status := rfl
  rw [same] at after
  generalize m'.cells c = cell at change after
  cases change with
  | keep => exact absurd before after
  | replace here free => exact absurd rfl after
  | @claim r outer builder here cell free =>
    subst here cell
    have linked := (keeping.threads t _ found).2
    obtain ⟨d, hd⟩ : ∃ d, ((r :: outer).map Request.cell).getLast? = some d :=
      ⟨_, List.getLast?_eq_some_getLast (by simp)⟩
    refine ⟨d, (outermost_of_get? found).trans hd, ?_⟩
    rcases List.mem_cons.1 (List.mem_of_getLast? hd) with rfl | outside
    · exact .refl
    · exact (linked.depends outside).to_reflTransGen
  | @publish r outer outcome here cell =>
    subst here cell
    have building := building_of_ended owned found
    simp [roster, content, building, Cell.content, Content.status] at before

theorem Accounted.turn {requested : List C} (accounted : m.Accounted k requested)
    (keeping : m.Keeping k) (owned : m.roster.Owned)
    (admitted : ∀ c result, m.answer? t = some (c, result) → k.admits m.completed c result)
    {thread : Thread T C σ α} (found : m.threads.get? t = some thread)
    (turn : Turn m t thread m') : m'.Accounted k (requested ++ (m.asked? t).toList) := by
  have grown := completed_turn owned found turn
  constructor
  · intro u c outermost
    rw [List.mem_append, Option.mem_toList]
    by_cases hu : u = t
    · subst hu
      rcases outermost_new found turn outermost with old | asked
      · exact Or.inl (accounted.made u c old)
      · exact Or.inr asked
    · exact Or.inl (accounted.made u c (outermost_of_ne turn hu ▸ outermost))
  · intro c hc
    rw [List.mem_append, Option.mem_toList] at hc
    rcases hc with old | asked
    · rcases accounted.answered c old with ⟨result, known⟩ | ⟨u, outermost⟩
      · exact Or.inl ⟨result, k.admits_mono grown known⟩
      · by_cases hu : u = t
        · subst hu
          rcases outermost_old found turn outermost with still | ⟨result, answer⟩ | ⟨r, outer, rfl⟩
          · exact Or.inr ⟨u, still⟩
          · exact Or.inl ⟨result, k.admits_mono grown (admitted c result answer)⟩
          · obtain ⟨_, heq, _⟩ := (keeping.threads u _ found).1
            cases heq
        · exact Or.inr ⟨u, (outermost_of_ne turn hu).trans outermost⟩
    · exact Or.inr ⟨t, outermost_of_asked found turn asked⟩
  · intro c after
    by_cases before : m.roster.status c = .empty
    · obtain ⟨d, outermost, path⟩ := reached_turn keeping owned found turn before after
      exact ⟨d, List.mem_append_left _ (accounted.made t d outermost), path⟩
    · obtain ⟨d, hd, path⟩ := accounted.reached c before
      exact ⟨d, List.mem_append_left _ hd, path⟩

theorem accounted_runSchedule (fresh : m₀.Fresh) (under : m₀.Under k) (schedule : List T) :
    (m₀.runSchedule schedule).Accounted k (m₀.requested schedule) := by
  refine schedule_induction m₀
    (P := fun before => (m₀.runSchedule before).Accounted k (m₀.requested before)) ?_ ?_ ?_ schedule
  · constructor
    · intro t c outermost
      have here := Option.bind_eq_some_iff.1 outermost
      obtain ⟨thread, found, last⟩ := here
      obtain ⟨program, rfl⟩ := fresh.threads t thread found
      simp [Thread.calls] at last
    · exact fun c hc => absurd hc List.not_mem_nil
    · exact fun c started => absurd (fresh.status c) started
  · intro before t past stuck same
    simpa [requested, observed_concat, asked_of_stuck stuck, same] using past
  · intro before t thread past found turn
    have grown : m₀.requested (before ++ [t]) =
        m₀.requested before ++ ((m₀.runSchedule before).asked? t).toList :=
      observed_concat asked? m₀ before t
    rw [grown]
    exact past.turn (keeping_runSchedule fresh under before) (owned_runSchedule fresh before)
      (fun c result answered => admits_of_answer fresh under before answered) found turn

/-- The builders that were run were run for what the threads asked for. -/
theorem reached_of_invoked (fresh : m₀.Fresh) (under : m₀.Under k) (schedule : List T) {c : C}
    (invoked : c ∈ m₀.invocations schedule) :
    ∃ d ∈ m₀.requested schedule, ReflTransGen k.depends d c :=
  (accounted_runSchedule fresh under schedule).reached c
    (((invocations_nodup fresh schedule).2 c).1 invoked).1

/-- Once no thread is inside a request, all that was asked for is answered. -/
theorem admitted_of_requested (fresh : m₀.Fresh) (under : m₀.Under k) (schedule : List T)
    (idle : ∀ t thread, (m₀.runSchedule schedule).threads.get? t = some thread → thread.calls = [])
    {c : C} (hc : c ∈ m₀.requested schedule) :
    ∃ result, k.admits (m₀.runSchedule schedule).completed c result := by
  rcases (accounted_runSchedule fresh under schedule).answered c hc with admitted | ⟨t, outermost⟩
  · exact admitted
  · obtain ⟨thread, found, last⟩ := Option.bind_eq_some_iff.1 outermost
    simp [idle t thread found] at last

/-- A cell that is complete had its builder run. -/
theorem invoked_of_completed (fresh : m₀.Fresh) (schedule : List T) {c : C}
    (complete : c ∈ (m₀.runSchedule schedule).completed) : c ∈ m₀.invocations schedule := by
  obtain ⟨result, complete⟩ := complete
  have started : (m₀.runSchedule schedule).roster.status c ≠ .empty ∧
      (m₀.runSchedule schedule).cells c ≠ .building := by
    have hcell := outcome_eq_some.1 complete
    cases result <;> simp [roster, content, hcell, Cell.ofResult, Cell.content, Content.status]
  refine ((invocations_nodup fresh schedule).2 c).2 ⟨started.1, fun t starting => ?_⟩
  have building := Posture.building_of_starting starting
  exact started.2 ((building_iff (owned_runSchedule fresh schedule)).2 ⟨t, building⟩)

end Machine
end ClusterDriver
