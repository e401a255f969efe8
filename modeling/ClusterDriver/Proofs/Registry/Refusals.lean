import ClusterDriver.Proofs.Registry.Outcomes
import ClusterDriver.Proofs.Registry.Tracking
import Mathlib.Data.List.Chain
/-!
# Refusals

Where detection is on, a request is refused only while the builders and their waits lead from its
cell back to the thread that asks. Records in the wait graph outlive what they describe: a thread
that was served is still registered to wait, and a builder that has published is still registered
to build. No such record lies on the way back to the caller, and a wait that is refused would never
have ended.
-/
namespace ClusterDriver
open Relation

/-- The requests whose builders are on the stack of a thread, innermost first. -/
def Thread.frames {T C σ α : Type} : Thread T C σ α → List (Request T C σ α)
  | .run requests _ => requests
  | .request _ _ outer => outer
  | .done _ => []

/-- A thread that is registered to wait is building all that it has entered. -/
theorem Thread.entered_of_awaited {T C σ α : Type} {thread : Thread T C σ α} {c : C}
    (awaits : thread.posture.awaited? = some c) :
    thread.posture.entered = thread.frames.map Request.cell ∧
      ∀ d ∈ thread.posture.entered, d ∈ thread.posture.building := by
  cases thread with
  | run requests program => cases awaits
  | done outcome => cases awaits
  | request stage r outer =>
    cases stage with
    | check | register | cleared _ | ended _ | published _ => cases awaits
    | inspect | served _ => exact ⟨rfl, fun d hd => hd⟩
    | claimed _ => exact ⟨rfl, fun d hd => List.mem_cons_of_mem r.cell hd⟩

theorem Thread.frames_suffix_entered {T C σ α : Type} (thread : Thread T C σ α) :
    thread.frames.map Request.cell <:+ thread.posture.entered := by
  cases thread with
  | run requests program => exact List.suffix_rfl
  | done outcome => exact List.suffix_rfl
  | request stage r outer =>
    cases stage with
    | check | register | inspect | served _ | claimed _ | cleared _ => exact List.suffix_rfl
    | ended _ | published _ => exact List.suffix_cons r.cell _

theorem Thread.entered_of_frames {T C σ α : Type} {thread : Thread T C σ α} {c : C}
    (h : c ∈ thread.frames.map Request.cell) : c ∈ thread.posture.entered :=
  thread.frames_suffix_entered.subset h

namespace Machine
variable {T C σ α : Type} [DecidableEq T] [DecidableEq C] {m m' m₀ : Machine T C σ α} {t u v : T}
  {c : C} {r : Request T C σ α} {outer : List (Request T C σ α)} {chain : List C}

omit [DecidableEq C] in
/-- No builder is on the stack of a thread twice. -/
theorem frames_nodup (owned : m.roster.Owned) {thread : Thread T C σ α}
    (found : m.threads.get? t = some thread) : (thread.frames.map Request.cell).Nodup := by
  have entered : (m.posture t).entered.Nodup := owned.entered_nodup t
  rw [posture_of_get? found] at entered
  exact entered.sublist thread.frames_suffix_entered.sublist

/-- `t` runs the builder of `c`, perhaps below the builders of cells that this one asked for. -/
def RunsBuilder (m : Machine T C σ α) (t : T) (c : C) : Prop :=
  ∃ thread, m.threads.get? t = some thread ∧ c ∈ thread.frames.map Request.cell

/-- `t` is registered to wait for a cell that is being built, by a builder that `u` runs. -/
def AwaitsBuilder (m : Machine T C σ α) (t u : T) : Prop :=
  ∃ c, m.detector.graph.waiting.get? t = some c ∧ m.cells c = .building ∧ m.RunsBuilder u c

/-- A thread that leads back to the caller is the caller or waits itself, so what it is registered
to build is not published yet. -/
theorem runs_of_leads (owned : m.roster.Owned) (tracked : m.roster.Tracked)
    (found : m.threads.get? t = some (.request .register r outer))
    (leads : ReflTransGen m.detector.graph.Waits u t)
    (built : m.detector.graph.building.get? c = some u) :
    m.cells c = .building ∧ m.RunsBuilder u c := by
  have entered : c ∈ (m.posture u).entered := (tracked.built_by c u).1 built
  rcases leads.cases_head with rfl | ⟨v, ⟨d, waits, _⟩, _⟩
  · have here : m.posture u = ⟨outer.map Request.cell, .none⟩ := posture_of_get? found
    rw [here] at entered
    have building : c ∈ (m.posture u).building := by
      simpa [here, Posture.building, Posture.held] using entered
    exact ⟨(building_iff owned).2 ⟨u, building⟩, _, found, entered⟩
  · have awaits : (m.posture u).awaited? = some d := (tracked.waits_on u).symm.trans waits
    cases hthread : m.threads.get? u with
    | none => simp [posture, hthread, Posture.awaited?] at awaits
    | some thread =>
      rw [posture_of_get? hthread] at awaits entered
      obtain ⟨frames, building⟩ := Thread.entered_of_awaited awaits
      have held : c ∈ (m.posture u).building := by
        rw [posture_of_get? hthread]
        exact building c entered
      exact ⟨(building_iff owned).2 ⟨u, held⟩, thread, hthread, frames ▸ entered⟩

theorem awaits_of_leads (owned : m.roster.Owned) (tracked : m.roster.Tracked)
    (found : m.threads.get? t = some (.request .register r outer))
    (leads : ReflTransGen m.detector.graph.Waits u t) :
    ReflTransGen m.AwaitsBuilder u t := by
  induction leads using ReflTransGen.head_induction_on with
  | refl => exact .refl
  | head edge rest ih =>
    obtain ⟨d, waits, built⟩ := edge
    obtain ⟨building, runs⟩ := runs_of_leads owned tracked found rest built
    exact .head ⟨d, waits, building, runs⟩ ih

theorem closing_of_refused (refused : m.detector.request t c = .error chain) :
    m.detector.graph.closing? t c = some chain := by
  unfold Detector.request at refused
  split at refused
  · split at refused
    · next closes => exact (Except.error.inj refused) ▸ closes
    · cases refused
  · cases refused

theorem enabled_of_refused (refused : m.detector.request t c = .error chain) :
    m.detector.isEnabled = true := by
  unfold Detector.request at refused
  split at refused
  · assumption
  · cases refused

/-- What a refusal says of the threads from the builder of the cell to the caller. -/
theorem leads_of_refused (owned : m.roster.Owned) (tracked : m.roster.Tracked)
    (found : m.threads.get? t = some (.request .register r outer))
    (refused : m.detector.request t r.cell = .error chain) :
    ∃ first, m.cells r.cell = .building ∧ m.RunsBuilder first r.cell ∧
      ReflTransGen m.AwaitsBuilder first t := by
  obtain ⟨first, built, leads⟩ :=
    WaitGraph.waits_of_closing (fun d => tracked.on_stack d t) (closing_of_refused refused)
  obtain ⟨building, runs⟩ := runs_of_leads owned tracked found leads built
  exact ⟨first, building, runs, awaits_of_leads owned tracked found leads⟩

/-- A thread that runs no builder is not refused. -/
theorem outer_ne_nil_of_refused (fresh : m₀.Fresh) {schedule : List T}
    (found : (m₀.runSchedule schedule).threads.get? t = some (.request .register r outer))
    (refused : (m₀.runSchedule schedule).detector.request t r.cell = .error chain) :
    outer ≠ [] := by
  have enabled := (isEnabled_runSchedule m₀ schedule).symm.trans (enabled_of_refused refused)
  obtain ⟨first, _, runs, leads⟩ := leads_of_refused (owned_runSchedule fresh schedule)
    (tracked_runSchedule fresh enabled schedule) found refused
  have caller : ∃ c, (m₀.runSchedule schedule).RunsBuilder t c := by
    rcases leads.cases_tail with rfl | ⟨_, _, d, _, _, hd⟩
    · exact ⟨r.cell, runs⟩
    · exact ⟨d, hd⟩
  obtain ⟨c, there, hthere, hc⟩ := caller
  rintro rfl
  cases Option.some.inj (hthere.symm.trans found)
  cases hc

/-- A wait for a cell that another builder has in hand is not over, nor has it led to a claim. -/
theorem blocked_of_awaits (owned : m.roster.Owned) (tracked : m.roster.Tracked)
    (agrees : ∀ thread, m.threads.get? t = some thread → m.Agrees thread)
    (awaits : m.AwaitsBuilder t u) : ∃ c, m.BlockedOn t c ∧ c ∈ (m.posture u).building := by
  obtain ⟨c, waits, building, there, hthere, runs⟩ := awaits
  have entered : c ∈ (m.posture u).entered := by
    rw [posture_of_get? hthere]
    exact Thread.entered_of_frames runs
  have held : c ∈ (m.posture u).building := by
    obtain ⟨v, hv⟩ := (building_iff owned).1 building
    obtain rfl := owned.unique v u c (Posture.held_of_mem_building hv)
      (Posture.held_of_mem_entered entered)
    exact hv
  refine ⟨c, ?_, held⟩
  have awaited : (m.posture t).awaited? = some c := (tracked.waits_on t).symm.trans waits
  cases hthread : m.threads.get? t with
  | none => simp [posture, hthread, Posture.awaited?] at awaited
  | some thread =>
    have agrees := agrees thread hthread
    rw [posture_of_get? hthread] at awaited
    cases thread with
    | run requests program => cases awaited
    | done outcome => cases awaited
    | request stage r outer =>
      cases stage with
      | check | register | cleared _ | ended _ | published _ => cases awaited
      | inspect =>
        cases awaited
        exact ⟨r, outer, hthread, rfl, building⟩
      | served result =>
        cases awaited
        simp [Agrees, content, building, Cell.content, Content.outcome?] at agrees
      | claimed builder =>
        cases awaited
        have here : m.posture t = ⟨outer.map Request.cell, .claimed r.cell⟩ :=
          posture_of_get? hthread
        obtain rfl := owned.unique t u r.cell (by simp [roster, here, Posture.held])
          (Posture.held_of_mem_entered entered)
        have nodup := owned.nodup t
        simp only [roster, here, Posture.held, List.nodup_cons] at nodup
        rw [here] at entered
        exact absurd entered nodup.1

/-- Each of these threads is blocked on a cell that another of them has in hand. -/
structure Clogged (m : Machine T C σ α) (threads : List T) : Prop where
  owned : m.roster.Owned
  blocked : ∀ t ∈ threads, ∃ c, m.BlockedOn t c ∧ ∃ u ∈ threads, c ∈ (m.posture u).building

theorem Clogged.step_eq_none {threads : List T} (clogged : m.Clogged threads) (ht : t ∈ threads) :
    m.step t = none := by
  obtain ⟨c, blocked, _⟩ := clogged.blocked t ht
  exact blocked.step

/-- Only the builder of a cell ends the wait for it, and it waits as well. -/
theorem Clogged.turn {threads : List T} (clogged : m.Clogged threads) {thread : Thread T C σ α}
    (found : m.threads.get? t = some thread) (turn : Turn m t thread m') (away : t ∉ threads) :
    m'.Clogged threads := by
  refine ⟨clogged.owned.move (roster_turn found turn), ?_⟩
  intro u hu
  obtain ⟨c, ⟨r, outer, hthread, rfl, building⟩, v, hv, held⟩ := clogged.blocked u hu
  have other : ∀ w ∈ threads, w ≠ t := by
    rintro w hw rfl
    exact away hw
  refine ⟨r.cell, ⟨r, outer, ?_, rfl, ?_⟩, v, hv, ?_⟩
  · rw [threads_turn turn (other u hu), hthread]
  · have change := cellTurn_of_turn turn r.cell
    generalize m'.cells r.cell = cell at change
    cases change with
    | keep => exact building
    | replace here free =>
      rw [building] at free
      cases free
    | claim here cell free => rfl
    | @publish r' outer' outcome here cell =>
      subst here
      have publishing : r.cell ∈ (m.posture t).building := by
        rw [posture_of_get? found]
        simp [Thread.posture, Posture.building, Posture.held, cell]
      have same := clogged.owned.unique v t r.cell (Posture.held_of_mem_building held)
        (Posture.held_of_mem_building publishing)
      exact absurd same (other v hv)
  · rw [posture_turn turn (other v hv)]
    exact held

theorem Clogged.runSchedule {threads : List T} (clogged : m.Clogged threads) (schedule : List T) :
    (m.runSchedule schedule).Clogged threads := by
  refine runSchedule_induction (P := fun m => m.Clogged threads) clogged ?_ schedule
  intro before t thread m' clogged found turn
  refine clogged.turn found turn fun ht => ?_
  obtain ⟨c, blocked, _⟩ := clogged.blocked t ht
  exact blocked.no_turn found turn

/-- The machine as it would be if the wait of `t` were let through. -/
def letThrough (m : Machine T C σ α) (t : T) (r : Request T C σ α)
    (outer : List (Request T C σ α)) : Machine T C σ α :=
  { m with detector := { m.detector with graph := m.detector.graph.wait t r.cell } }.setThread t
    (.request .inspect r outer)

omit [DecidableEq C] in
theorem posture_letThrough : (m.letThrough t r outer).posture =
    Function.update m.posture t ⟨outer.map Request.cell, .waiting r.cell⟩ :=
  posture_setThread _ t _

omit [DecidableEq T] in
theorem exists_next {R : T → T → Prop} {threads : List T} (linked : threads.IsChain R)
    (last : threads.getLast? = some t) (hu : u ∈ threads) (away : u ≠ t) :
    ∃ v ∈ threads, R u v := by
  induction linked with
  | nil => cases hu
  | singleton a =>
    obtain rfl := Option.some.inj last
    exact absurd (List.mem_singleton.1 hu) away
  | @cons_cons a b rest edge _ ih =>
    rcases List.mem_cons.1 hu with rfl | hu
    · exact ⟨b, by simp, edge⟩
    · obtain ⟨v, hv, next⟩ := ih last hu
      exact ⟨v, List.mem_cons_of_mem a hv, next⟩

theorem clogged_of_refused {first : T} {rest : List T} (owned : m.roster.Owned)
    (tracked : m.roster.Tracked)
    (agrees : ∀ u thread, m.threads.get? u = some thread → m.Agrees thread)
    (found : m.threads.get? t = some (.request .register r outer))
    (building : m.cells r.cell = .building) (runs : m.RunsBuilder first r.cell)
    (linked : (first :: rest).IsChain m.AwaitsBuilder)
    (last : (first :: rest).getLast? = some t) :
    (m.letThrough t r outer).Clogged (first :: rest) := by
  have here : m.roster.posture t = ⟨outer.map Request.cell, .none⟩ := posture_of_get? found
  have owned' : (m.letThrough t r outer).roster.Owned :=
    owned.of_update (by rw [here]; rfl) (by rw [here]; rfl) posture_letThrough rfl
  have building_same : ∀ u, ((m.letThrough t r outer).posture u).building =
      (m.posture u).building := by
    intro u
    have stands : m.posture t = ⟨outer.map Request.cell, .none⟩ := here
    rw [posture_letThrough]
    exact Roster.update_apply_of Posture.building (by rw [stands]; rfl) u
  refine ⟨owned', ?_⟩
  intro u hu
  simp only [building_same]
  by_cases hut : u = t
  · subst hut
    obtain ⟨there, hthere, hframes⟩ := runs
    have entered : r.cell ∈ (m.posture first).entered := by
      rw [posture_of_get? hthere]
      exact Thread.entered_of_frames hframes
    obtain ⟨v, hv⟩ := (building_iff owned).1 building
    obtain rfl := owned.unique v first r.cell (Posture.held_of_mem_building hv)
      (Posture.held_of_mem_entered entered)
    exact ⟨r.cell, ⟨r, outer, by simp [letThrough, setThread], rfl, building⟩, v,
      List.mem_cons_self, hv⟩
  · obtain ⟨v, hv, awaits⟩ := exists_next linked last hu hut
    obtain ⟨c, ⟨r', outer', hthread, hcell, hbuilding⟩, held⟩ :=
      blocked_of_awaits owned tracked (agrees u) awaits
    refine ⟨c, ⟨r', outer', ?_, hcell, hbuilding⟩, v, hv, held⟩
    rw [← hthread]
    simp [letThrough, setThread, Table.get?_insert_of_ne _ (Ne.symm hut)]

/-- No false alarm. When a request of `t` is refused, its cell is being built, `t` runs a builder
itself, and some threads lead from the builder of the cell to `t`, each registered to wait for a
cell that the next one is building still. Let through, the request would stop all of them for
ever. -/
theorem no_false_alarm (m₀ : Machine T C σ α) (fresh : m₀.Fresh)
    (enabled : m₀.detector.isEnabled = true) (schedule : List T) (t : T) (r : Request T C σ α)
    (outer : List (Request T C σ α)) (chain : List C)
    (found : (m₀.runSchedule schedule).threads.get? t = some (.request .register r outer))
    (refused : (m₀.runSchedule schedule).detector.request t r.cell = .error chain) :
    let m := m₀.runSchedule schedule
    m.cells r.cell = .building ∧ outer ≠ [] ∧
    ∃ first rest, (first :: rest).getLast? = some t ∧ m.RunsBuilder first r.cell ∧
      (first :: rest).IsChain m.AwaitsBuilder ∧
      ∀ u ∈ first :: rest, ∀ later, ((m.letThrough t r outer).runSchedule later).step u = none := by
  intro m
  have owned := owned_runSchedule fresh schedule
  have tracked := tracked_runSchedule fresh enabled schedule
  have agrees := agreement_runSchedule fresh schedule
  obtain ⟨first, building, runs, leads⟩ := leads_of_refused owned tracked found refused
  obtain ⟨rest, linked, hlast⟩ := List.exists_isChain_cons_of_relationReflTransGen leads
  have last : (first :: rest).getLast? = some t := by
    rw [List.getLast?_eq_some_getLast (List.cons_ne_nil first rest), hlast]
  have clogged := clogged_of_refused owned tracked agrees found building runs linked last
  refine ⟨building, ?_, first, rest, last, runs, linked, ?_⟩
  · have caller : ∃ c, m.RunsBuilder t c := by
      rcases leads.cases_tail with rfl | ⟨u, _, d, _, _, hd⟩
      · exact ⟨r.cell, runs⟩
      · exact ⟨d, hd⟩
    obtain ⟨c, thread, hthread, hc⟩ := caller
    rintro rfl
    cases Option.some.inj (hthread.symm.trans found)
    cases hc
  · exact fun u hu later => (clogged.runSchedule later).step_eq_none hu

/-- Then the second thread is about to register its wait for the cell of the first. -/
def crossedBack : List Bool := crossed ++ [true, true]

theorem crossing_refused :
    crossing.Fresh ∧ crossing.detector.isEnabled = true ∧
    (crossing.runSchedule crossedBack).detector.request true false = .error [true, false, true] ∧
    (crossing.runSchedule crossedBack).cells false = .building ∧
    ∃ first rest, (first :: rest).getLast? = some true ∧
      (crossing.runSchedule crossedBack).RunsBuilder first false ∧
      (first :: rest).IsChain (crossing.runSchedule crossedBack).AwaitsBuilder := by
  have found : (crossing.runSchedule crossedBack).threads.get? true =
      some (.request .register ⟨false, Program.ofResult⟩ [⟨true, Program.ofResult⟩]) := by cbv
  have refused : (crossing.runSchedule crossedBack).detector.request true false =
      .error [true, false, true] := by cbv
  obtain ⟨building, _, first, rest, last, runs, linked, _⟩ :=
    no_false_alarm crossing crossing_fresh rfl crossedBack true ⟨false, Program.ofResult⟩
      [⟨true, Program.ofResult⟩] [true, false, true] found refused
  exact ⟨crossing_fresh, rfl, refused, building, first, rest, last, runs, linked⟩

end Machine
end ClusterDriver
