import ClusterDriver.Proofs.GrowingLists
import ClusterDriver.Proofs.Registry.Histories
/-!
# History of a cell

What was done to one cell in the course of a schedule: which builders were put into it, which one
was run, and what was published. The builder that is run is the last one that was put in, and what
was published is what the cell holds.
-/
namespace ClusterDriver

/-- How the status of a cell moves. -/
inductive CellStatus.Advances : CellStatus → CellStatus → Prop
  | begin : Advances .empty .building
  | succeed : Advances .building .built
  | fail : Advances .building .failed

namespace Machine
variable {T C σ α : Type} [DecidableEq T] [DecidableEq C] {m m' m₀ : Machine T C σ α} {t u : T}
  {c : C} {thread : Thread T C σ α}

/-- The builder that the next action of `t` puts into `c`, if it takes effect. -/
def installs? (c : C) (m : Machine T C σ α) (t : T) : Option (Program T C σ α) :=
  match m.threads.get? t with
  | some (.run _ (.replace cell builder _)) =>
    if cell = c ∧ (m.replace c builder).1 then some builder else none
  | _ => none

/-- The builder of `c` that the next action of `t` begins to run. -/
def begins? (c : C) (m : Machine T C σ α) (t : T) : Option (Program T C σ α) :=
  match m.threads.get? t with
  | some (.request (.cleared builder) r _) => if r.cell = c then some builder else none
  | _ => none

/-- The outcome of `c` that the next action of `t` publishes. -/
def publishes? (c : C) (m : Machine T C σ α) (t : T) : Option (Except AccessError α) :=
  match m.threads.get? t with
  | some (.request (.ended outcome) r _) =>
    if r.cell = c then (m.settled c outcome).content.outcome? else none
  | _ => none

/-- The builder that was last put into `c`, or the one that was there at first. -/
def lastInstalled (m₀ : Machine T C σ α) (c : C) (original : Program T C σ α) (schedule : List T) :
    Program T C σ α :=
  ((observed (installs? c) m₀ schedule).getLast?).getD original

theorem mem_observed {β : Type} {look : Machine T C σ α → T → Option β} {schedule : List T}
    {x : β} : x ∈ observed look m₀ schedule ↔
      ∃ before t after, schedule = before ++ t :: after ∧ look (m₀.runSchedule before) t = some x := by
  induction schedule using List.reverseRecOn with
  | nil => simp [observed]
  | append_singleton schedule t ih =>
    rw [observed_concat, List.mem_append, ih, Option.mem_toList]
    constructor
    · rintro (⟨before, u, after, rfl, seen⟩ | seen)
      · exact ⟨before, u, after ++ [t], by simp, seen⟩
      · exact ⟨schedule, t, [], rfl, seen⟩
    · rintro ⟨before, u, after, split, seen⟩
      rcases concat_eq_append_cons_iff.1 split with ⟨rfl, rfl, -⟩ | ⟨rest, -, earlier⟩
      · exact Or.inr seen
      · exact Or.inl ⟨before, u, rest, earlier, seen⟩

/-- A thread that is about to put a builder into a cell is never held up. -/
theorem installs_of_stuck (stuck : m.step t = none) : m.installs? c t = none := by
  unfold installs?
  split
  · next found => simp [step, found, runStep] at stuck
  · rfl

theorem begins_of_stuck (stuck : m.step t = none) : m.begins? c t = none := by
  unfold begins?
  split
  · next found => simp [step, found, requestStep] at stuck
  · rfl

theorem publishes_of_stuck (stuck : m.step t = none) : m.publishes? c t = none := by
  unfold publishes?
  split
  · next found => simp [step, found, requestStep] at stuck
  · rfl

omit [DecidableEq T] in
theorem replace_eq_true {builder : Program T C σ α} :
    (m.replace c builder).1 = true ↔ (m.content c).status = .empty := by
  cases hcell : m.cells c <;> simp [Machine.replace, content, hcell, Cell.content, Content.status]

omit [DecidableEq T] in
theorem replace_eq_self {builder : Program T C σ α} (refused : (m.replace c builder).1 = false) :
    (m.replace c builder).2 = m := by
  cases hcell : m.cells c <;> simp [Machine.replace, hcell] at refused ⊢

omit [DecidableEq T] [DecidableEq C] in
theorem status_eq_empty : (m.content c).status = .empty ↔ ∃ builder, m.cells c = .empty builder := by
  cases hcell : m.cells c <;> simp [content, hcell, Cell.content, Content.status]

theorem empty_of_installs {builder : Program T C σ α} (installs : m.installs? c t = some builder) :
    (m.content c).status = .empty ∧
      ∃ requests next, m.threads.get? t = some (.run requests (.replace c builder next)) := by
  unfold installs? at installs
  split at installs
  · next found =>
    split at installs
    · next effective =>
      obtain ⟨rfl, done⟩ := effective
      cases installs
      exact ⟨replace_eq_true.1 done, _, _, found⟩
    · cases installs
  · cases installs

/-- Nothing is put into a cell that is not empty, nor by any other action. -/
theorem installs_iff (found : m.threads.get? t = some thread) {builder : Program T C σ α} :
    m.installs? c t = some builder ↔ (m.content c).status = .empty ∧
      ∃ requests next, thread = .run requests (.replace c builder next) := by
  constructor
  · intro installs
    obtain ⟨empty, requests, next, there⟩ := empty_of_installs installs
    exact ⟨empty, requests, next, Option.some.inj (found.symm.trans there)⟩
  · rintro ⟨empty, requests, next, rfl⟩
    simp [installs?, found, replace_eq_true.2 empty]

theorem begun_of_begins {builder : Program T C σ α} (begins : m.begins? c t = some builder) :
    m.begun? t = some c := by
  unfold begins? at begins
  split at begins
  · next found =>
    split at begins
    · next hc => simp [begun?, found, hc]
    · cases begins
  · cases begins

theorem status_turn (owned : m.roster.Owned) (found : m.threads.get? t = some thread)
    (turn : Turn m t thread m') (c : C) :
    (m'.content c).status = (m.content c).status ∨
      (m.content c).status.Advances (m'.content c).status := by
  have change := cellTurn_of_turn turn c
  simp only [content]
  generalize m'.cells c = cell at change
  cases change with
  | keep => exact Or.inl rfl
  | replace here free => exact Or.inl (by simp [free, Cell.content, Content.status])
  | claim here cell free =>
    rw [free]
    exact Or.inr .begin
  | @publish r outer outcome here cell =>
    subst here cell
    rw [building_of_ended owned found]
    rcases status_settled m r.cell outcome with done | done <;> rw [done]
    · exact Or.inr .succeed
    · exact Or.inr .fail

theorem publishes_eq_none (found : m.threads.get? t = some thread)
    (other : ∀ outcome r outer, thread = .request (.ended outcome) r outer → r.cell ≠ c) :
    m.publishes? c t = none := by
  unfold publishes?
  split
  · next outcome r outer there =>
    exact if_neg (other outcome r outer (Option.some.inj (found.symm.trans there)))
  · rfl

/-- The outcome of a cell is what was published before, or just now. -/
theorem outcome_of_turn (owned : m.roster.Owned) (found : m.threads.get? t = some thread)
    (turn : Turn m t thread m') (c : C) :
    (m'.content c).outcome?.toList =
      (m.content c).outcome?.toList ++ (m.publishes? c t).toList := by
  have change := cellTurn_of_turn turn c
  generalize hcell : m'.cells c = cell at change
  simp only [content, hcell]
  by_cases publishing : ∃ outcome r outer, thread = .request (.ended outcome) r outer ∧ r.cell = c
  · obtain ⟨outcome, r, outer, rfl, rfl⟩ := publishing
    have before : (m.cells r.cell).content.outcome? = none := by
      rw [building_of_ended owned found]
      rfl
    have now : m.publishes? r.cell t = (m.settled r.cell outcome).content.outcome? := by
      simp [publishes?, found]
    have after : cell = m.settled r.cell outcome := by
      cases turn
      simpa [setThread, setCell] using hcell.symm
    rw [before, now, after, Option.toList_none, List.nil_append]
  · have quiet : m.publishes? c t = none :=
      publishes_eq_none found fun outcome r outer here hc =>
        publishing ⟨outcome, r, outer, here, hc⟩
    rw [quiet, Option.toList_none, List.append_nil]
    cases change with
    | keep => rfl
    | replace here free => rw [free]; rfl
    | claim here cell free => rw [free]; rfl
    | publish here cell => exact absurd ⟨_, _, _, here, cell⟩ publishing

/-- What was published is what the cell holds. -/
theorem publications (fresh : m₀.Fresh) (schedule : List T) (c : C) :
    observed (publishes? c) m₀ schedule =
      ((m₀.runSchedule schedule).content c).outcome?.toList := by
  refine schedule_induction m₀ (P := fun before => observed (publishes? c) m₀ before =
    ((m₀.runSchedule before).content c).outcome?.toList) ?_ ?_ ?_ schedule
  · obtain ⟨builder, hc⟩ := fresh.cells c
    simp [observed, runSchedule, content, hc, Cell.content, Content.outcome?]
  · intro before t past stuck same
    rw [observed_concat, publishes_of_stuck stuck, same, past]
    simp
  · intro before t thread past found turn
    rw [observed_concat, past, outcome_of_turn (owned_runSchedule fresh before) found turn]

/-- The outcome of a cell stays. -/
theorem outcome_runSchedule (fresh : m₀.Fresh) (schedule later : List T)
    {result : Except AccessError α}
    (complete : ((m₀.runSchedule schedule).content c).outcome? = some result) :
    ((m₀.runSchedule (schedule ++ later)).content c).outcome? = some result := by
  induction later using List.reverseRecOn with
  | nil => simpa using complete
  | append_singleton later t ih =>
    rw [← List.append_assoc, runSchedule_concat]
    cases hstep : (m₀.runSchedule (schedule ++ later)).step t with
    | none => exact ih
    | some m' =>
      obtain ⟨thread, found, turn⟩ := turn_of_step hstep
      exact outcome_turn (owned_runSchedule fresh _) found turn ih

/-- `builder` is what is run when the cell is asked for, or is about to be run. -/
structure Supplies (m : Machine T C σ α) (c : C) (builder : Program T C σ α) : Prop where
  cell : ∀ b, m.cells c = .empty b → b = builder
  taken : ∀ t stage r outer b, m.threads.get? t = some (.request stage r outer) → r.cell = c →
    stage.builder? = some b → b = builder

/-- A builder that a thread has taken came from the cell, or it had taken it before. -/
theorem taken_of_turn {stage : Stage T C σ α} {r : Request T C σ α} {outer : List (Request T C σ α)}
    {b : Program T C σ α} (turn : Turn m t thread m')
    (hnew : m'.threads.get? t = some (.request stage r outer)) (takes : stage.builder? = some b) :
    m.cells r.cell = .empty b ∨ thread = .request (.claimed b) r outer := by
  cases turn with
  | @claim r outer builder free =>
    cases get?_setThread_self hnew
    cases takes
    exact Or.inl free
  | clear =>
    cases get?_setThread_self hnew
    cases takes
    exact Or.inr rfl
  | @conclude requests program outcome ends =>
    have heq := get?_setThread_self hnew
    cases requests <;> cases heq
    cases takes
  | ask | approach | wait | serve | publish =>
    cases get?_setThread_self hnew
    cases takes
  | look | replace | stack | update | await | reuse | refuse | release | enter | leave | unwind =>
    cases get?_setThread_self hnew

theorem Supplies.turn {builder : Program T C σ α} (supplies : m.Supplies c builder)
    (found : m.threads.get? t = some thread) (turn : Turn m t thread m')
    (quiet : m.installs? c t = none) : m'.Supplies c builder where
  cell b hb := by
    rcases empty_turn turn hb with kept | ⟨_, _, _, here, free⟩
    · exact supplies.cell b kept
    · have installs := (installs_iff found).2 ⟨status_eq_empty.2 ⟨_, free⟩, _, _, here⟩
      cases quiet.symm.trans installs
  taken v stage r outer b hv hc hb := by
    by_cases hvt : v = t
    · subst hvt
      rcases taken_of_turn turn hv hb with free | rfl
      · exact supplies.cell b (hc ▸ free)
      · exact supplies.taken v _ r outer b found hc rfl
    · exact supplies.taken v stage r outer b (threads_turn turn hvt ▸ hv) hc hb

/-- A builder that is put into a cell is the one that it supplies, because none was taken yet. -/
theorem supplies_of_installs (owned : m.roster.Owned) (found : m.threads.get? t = some thread)
    (turn : Turn m t thread m') {builder : Program T C σ α}
    (installs : m.installs? c t = some builder) : m'.Supplies c builder := by
  obtain ⟨empty, requests, next, rfl⟩ := (installs_iff found).1 installs
  have effect : m' = (m.setCell c (.empty builder)).setThread t (.run requests (next true)) := by
    obtain ⟨old, hold⟩ := status_eq_empty.1 empty
    cases turn with
    | conclude ends => cases ends
    | replace => simp [Machine.replace, hold]
  constructor
  · intro b hb
    have heq : Cell.empty builder = .empty b := by
      rw [← hb, effect]
      exact (cells_setCell_self m c _).symm
    cases heq
    rfl
  · intro v stage r outer b hv hc takes
    by_cases hvt : v = t
    · subst hvt
      rcases taken_of_turn turn hv takes with _ | heq
      · rw [effect] at hv
        cases get?_setThread_self hv
      · cases heq
    · have held : c ∈ (m.posture v).held := by
        rw [posture_of_get? (threads_turn turn hvt ▸ hv)]
        cases stage with
        | claimed | cleared => simp [Thread.posture, Posture.held, hc]
        | check | register | inspect | served | ended | published => cases takes
      exact absurd empty (owned.started v c held)

theorem Supplies.begins {builder b : Program T C σ α} (supplies : m.Supplies c builder)
    (begins : m.begins? c t = some b) : b = builder := by
  unfold begins? at begins
  split at begins
  · next found =>
    split at begins
    · next hc =>
      cases begins
      exact supplies.taken t _ _ _ _ found hc rfl
    · cases begins
  · cases begins

/-- No builder of an empty cell has been run. -/
theorem not_begun_of_empty (fresh : m₀.Fresh) (schedule : List T)
    (empty : ((m₀.runSchedule schedule).content c).status = .empty) (b : Program T C σ α) :
    b ∉ observed (begins? c) m₀ schedule := by
  intro begun
  obtain ⟨earlier, u, rest, rfl, begins⟩ := mem_observed.1 begun
  have invoked : c ∈ m₀.invocations (earlier ++ u :: rest) :=
    mem_observed.2 ⟨earlier, u, rest, rfl, begun_of_begins begins⟩
  exact absurd empty (((invocations_nodup fresh _).2 c).1 invoked).1

/-- The builder that is run is the one that was last put in. -/
theorem supplies_runSchedule (fresh : m₀.Fresh) {original : Program T C σ α}
    (holds : m₀.cells c = .empty original) (schedule : List T) :
    (m₀.runSchedule schedule).Supplies c (m₀.lastInstalled c original schedule) ∧
      ∀ b ∈ observed (begins? c) m₀ schedule, b = m₀.lastInstalled c original schedule := by
  refine schedule_induction m₀ (P := fun before =>
    (m₀.runSchedule before).Supplies c (m₀.lastInstalled c original before) ∧
      ∀ b ∈ observed (begins? c) m₀ before, b = m₀.lastInstalled c original before)
    ?_ ?_ ?_ schedule
  · refine ⟨⟨?_, ?_⟩, fun b hb => absurd hb List.not_mem_nil⟩
    · intro b hb
      cases holds.symm.trans hb
      rfl
    · intro t stage r outer b found
      obtain ⟨program, heq⟩ := fresh.threads t _ found
      cases heq
  · intro before t past stuck same
    simpa only [lastInstalled, observed_concat, installs_of_stuck stuck, begins_of_stuck stuck, same,
      Option.toList_none, List.append_nil] using past
  · intro before t thread past found turn
    obtain ⟨supplies, begun⟩ := past
    simp only [lastInstalled, observed_concat]
    cases installs : (m₀.runSchedule before).installs? c t with
    | none =>
      rw [Option.toList_none, List.append_nil]
      refine ⟨supplies.turn found turn installs, fun b hb => ?_⟩
      rcases List.mem_append.1 hb with old | now
      · exact begun b old
      · exact supplies.begins (Option.mem_toList.1 now)
    | some builder =>
      rw [Option.toList_some, List.getLast?_concat, Option.getD_some]
      refine ⟨supplies_of_installs (owned_runSchedule fresh before) found turn installs, ?_⟩
      obtain ⟨empty, requests, next, rfl⟩ := (installs_iff found).1 installs
      intro b hb
      rcases List.mem_append.1 hb with old | now
      · exact absurd old (not_begun_of_empty fresh before empty b)
      · simp [begins?, found] at now

end Machine
end ClusterDriver
