import ClusterDriver.Proofs.Registry.Calls
import ClusterDriver.Proofs.Registry.Refusals
import ClusterDriver.Proofs.Registry.WaitWalks
/-!
# Cycle chains

What the chain of a refused request names. It begins and ends with one cell. The caller's own
builders come first, each asking for the next name itself. From there on, the chain goes from the
cell that a thread has entered to the cell that this thread waits for, and leaves out the builders
that the thread runs above the first. So the chain names the whole loop if it lies on the stack of
the caller, or if no other thread runs more than one builder.
-/
namespace ClusterDriver
open Relation

namespace WaitGraph
variable {T C : Type} [DecidableEq T] [DecidableEq C] {g : WaitGraph T C} {caller : T} {c : C}

/-- Another thread than the caller is building `x` and waits for `y`. -/
def Passes (g : WaitGraph T C) (caller : T) (x y : C) : Prop :=
  ∃ u, u ≠ caller ∧ g.building.get? x = some u ∧ g.waiting.get? u = some y

theorem since_eq {cells : List C} (among : c ∈ cells) :
    ∃ before rest, cells = before ++ c :: rest ∧ since c cells = c :: rest := by
  obtain ⟨before, rest, _, split, same⟩ := since_split among
  exact ⟨before, rest, split, same⟩

/-- On the way to the caller, the walk only passes other threads. -/
theorem passes_of_leads {x : C} {rest : List C} {builders : List T}
    (leads : g.Leads caller (x :: rest) builders) : (x :: rest).IsChain (g.Passes caller) := by
  induction rest generalizing x builders with
  | nil => exact .singleton x
  | cons y rest ih =>
    obtain ⟨u, _, _, built⟩ := leads.exists_builder
    have other : u ≠ caller := by
      rintro rfl
      cases leads.stops built
    obtain ⟨_, _, _, same, _, _, waits, later⟩ := leads.goes_on built other
    cases same
    exact .cons_cons ⟨u, other, built, waits⟩ (ih later)

/-- A chain is a part of the caller's stack and what the walk meets from the cell on. -/
theorem shape_of_closing {chain : List C} (closes : g.closing? caller c = some chain) :
    ∃ rest last, chain = since last (g.stack caller) ++ c :: rest ∧ last ∈ g.stack caller ∧
      (c :: rest).getLast? = some last ∧ (c :: rest).IsChain (g.Passes caller) ∧
      (c ∈ g.stack caller → rest = []) := by
  obtain ⟨before, above, last, path, rfl, split, absent, starts, ends, walked⟩ :=
    closing_eq_some.1 closes
  obtain ⟨rest, rfl⟩ := List.head?_eq_some_iff.1 starts
  refine ⟨rest, last, by rw [split, since_append absent], by simp [split], ends, ?_, ?_⟩
  · rcases walked with ⟨_, alone⟩ | ⟨_, builders, leads⟩
    · cases alone
      exact .singleton c
    · exact passes_of_leads leads
  · intro own
    rcases walked with ⟨_, alone⟩ | ⟨away, _⟩
    · exact (List.cons.inj alone).2
    · exact absurd own away

end WaitGraph

/-- The request for `y` that the builder of `x` is about to make, as `(x, y)`. -/
def Thread.asks? {T C σ α : Type} : Thread T C σ α → Option (C × C)
  | .run (r :: _) (.get cell _) => some (r.cell, cell)
  | _ => none

/-- The cells that are asked for, each by the builder of the one before, the outermost first. -/
def Thread.trail {T C σ α : Type} (thread : Thread T C σ α) : List C :=
  (thread.calls.map Request.cell).reverse

theorem Thread.length_calls_le {T C σ α : Type} (thread : Thread T C σ α) :
    thread.calls.length ≤ thread.frames.length + 1 := by
  cases thread with
  | run requests program => exact Nat.le_succ _
  | request stage r outer => exact Nat.le_refl _
  | done outcome => exact Nat.zero_le _

theorem Thread.calls_of_awaited {T C σ α : Type} {thread : Thread T C σ α} {c : C}
    (awaits : thread.posture.awaited? = some c) :
    thread.calls.map Request.cell = c :: thread.frames.map Request.cell := by
  cases thread with
  | run requests program => cases awaits
  | done outcome => cases awaits
  | request stage r outer =>
    cases stage with
    | check | register | cleared _ | ended _ | published _ => cases awaits
    | inspect | served _ | claimed _ =>
      cases awaits
      rfl

namespace Machine
variable {T C σ α : Type} [DecidableEq T] [DecidableEq C] {m m' m₀ : Machine T C σ α} {t u : T}
  {x y c : C} {r : Request T C σ α} {outer : List (Request T C σ α)} {chain between : List C}

/-- In the course of a schedule, the builder of `x` itself asked for `y`. -/
def Asked (m₀ : Machine T C σ α) (schedule : List T) (x y : C) : Prop :=
  ∃ before u thread, before <+: schedule ∧
    (m₀.runSchedule before).threads.get? u = some thread ∧ thread.asks? = some (x, y)

/-- On the thread, the requests under way lead from the builder of `x` to a request for `y`, by the
builders of the cells between. -/
def Leads (m : Machine T C σ α) (u : T) (between : List C) (x y : C) : Prop :=
  ∃ thread, m.threads.get? u = some thread ∧ x :: (between ++ [y]) <:+: thread.trail

theorem Asked.mono {schedule later : List T} (asked : m₀.Asked schedule x y)
    (sub : schedule <+: later) : m₀.Asked later x y := by
  obtain ⟨before, u, thread, short, found, asks⟩ := asked
  exact ⟨before, u, thread, short.trans sub, found, asks⟩

omit [DecidableEq T] [DecidableEq C] in
theorem trail_of_calls {thread : Thread T C σ α} (here : thread.calls = r :: outer) :
    thread.trail = (outer.map Request.cell).reverse ++ [r.cell] := by
  simp [Thread.trail, here]

omit [DecidableEq T] [DecidableEq C] in
theorem trail_request (stage : Stage T C σ α) (r : Request T C σ α)
    (outer : List (Request T C σ α)) :
    (Thread.request stage r outer).trail = (outer.map Request.cell).reverse ++ [r.cell] :=
  trail_of_calls rfl

/-- Every request under way was made by the builder around it. -/
theorem asked_of_trail (fresh : m₀.Fresh) (schedule : List T) : ∀ u thread,
    (m₀.runSchedule schedule).threads.get? u = some thread →
      thread.trail.IsChain (m₀.Asked schedule) := by
  refine schedule_induction m₀ (P := fun schedule => ∀ u thread,
    (m₀.runSchedule schedule).threads.get? u = some thread →
      thread.trail.IsChain (m₀.Asked schedule)) ?_ ?_ ?_ schedule
  · intro u thread found
    obtain ⟨program, rfl⟩ := fresh.threads u thread found
    exact .nil
  · intro before t ih _ same u thread found
    rw [same] at found
    exact (ih u thread found).imp fun _ _ asked => asked.mono (List.prefix_append before [t])
  · intro before t thread ih found turn
    have earlier : ∀ {x y}, m₀.Asked before x y → m₀.Asked (before ++ [t]) x y :=
      fun asked => asked.mono (List.prefix_append before [t])
    have asked := (ih t thread found).imp fun _ _ => earlier
    refine forall_threads_turn turn (fun u other _ hu => (ih u other hu).imp fun _ _ => earlier) ?_
    intro new hnew
    cases callTurn_of_turn found turn hnew with
    | keep same =>
      rw [Thread.trail, same]
      exact asked
    | @ask requests cell next here =>
      subst here
      have trail : (Thread.request .check ⟨cell, next⟩ requests).trail =
          (Thread.run requests (.get cell next)).trail ++ [cell] := by
        simp [Thread.trail, Thread.calls]
      rw [trail]
      refine List.isChain_append.2 ⟨asked, .singleton cell, ?_⟩
      intro x last y first
      obtain rfl : cell = y := by simpa using first
      cases requests with
      | nil => cases last
      | cons r outer =>
        obtain rfl : r.cell = x := by simpa [Thread.trail, Thread.calls] using last
        exact ⟨before, t, _, List.prefix_append before [t], found, rfl⟩
    | answer here _ =>
      rw [trail_of_calls here] at asked
      exact asked.left_of_append
    | @unwind r outer here =>
      subst here
      rw [trail_request] at asked
      exact asked.left_of_append

theorem asked_of_leads (fresh : m₀.Fresh) {schedule : List T}
    (leads : (m₀.runSchedule schedule).Leads u between x y) :
    (x :: (between ++ [y])).IsChain (m₀.Asked schedule) := by
  obtain ⟨thread, found, before, after, whole⟩ := leads
  have asked := asked_of_trail fresh schedule u thread found
  rw [← whole] at asked
  exact asked.left_of_append.right_of_append

omit [DecidableEq C] in
/-- The builders of one thread ask one for the next. -/
theorem leads_of_trail {thread : Thread T C σ α} (found : m.threads.get? u = some thread) :
    thread.trail.IsChain (m.Leads u []) := by
  rw [List.isChain_iff_forall_rel_of_append_cons_cons]
  intro x y before after split
  exact ⟨thread, found, before, after, by simpa using split.symm⟩

/-- A thread that has entered `x` and waits for `y` runs some builders between. -/
theorem leads_of_passes (tracked : m.roster.Tracked)
    (passes : m.detector.graph.Passes t x y) : ∃ u between, u ≠ t ∧ m.Leads u between x y := by
  obtain ⟨u, other, built, waits⟩ := passes
  have entered : x ∈ (m.posture u).entered := (tracked.built_by x u).1 built
  have awaits : (m.posture u).awaited? = some y := (tracked.waits_on u).symm.trans waits
  cases found : m.threads.get? u with
  | none => simp [posture, found, Posture.awaited?] at awaits
  | some thread =>
    rw [posture_of_get? found] at awaits entered
    rw [(Thread.entered_of_awaited awaits).1] at entered
    obtain ⟨before, between, split⟩ := List.append_of_mem (List.mem_reverse.2 entered)
    refine ⟨u, between, other, thread, found, before, [], ?_⟩
    rw [Thread.trail, Thread.calls_of_awaited awaits, List.reverse_cons, split]
    simp

/-- The thread that is refused asks for the last name of its part of the chain itself. -/
theorem leads_of_since (found : m.threads.get? t = some (.request .register r outer)) {last : C}
    (stack : m.detector.graph.stack t = (outer.map Request.cell).reverse)
    (onStack : last ∈ m.detector.graph.stack t) :
    (WaitGraph.since last (m.detector.graph.stack t) ++ [r.cell]).IsChain (m.Leads t []) := by
  obtain ⟨before, rest, split, since⟩ := WaitGraph.since_eq onStack
  have whole := leads_of_trail found
  rw [trail_request, ← stack, split] at whole
  rw [since]
  exact (List.append_assoc before _ _ ▸ whole).right_of_append

omit [DecidableEq C] in
/-- A thread that runs one builder at most leaves none out. -/
theorem Leads.direct (leads : m.Leads u between x y)
    (shallow : ∀ thread, m.threads.get? u = some thread → thread.frames.length ≤ 1) :
    m.Leads u [] x y := by
  obtain ⟨thread, found, inside⟩ := leads
  have short := inside.length_le
  simp only [Thread.trail, List.length_cons, List.length_append, List.length_nil,
    List.length_reverse, List.length_map] at short
  have few := shallow thread found
  have calls := thread.length_calls_le
  have none : between = [] := List.eq_nil_of_length_eq_zero (by omega)
  exact ⟨thread, found, none ▸ inside⟩

/-- What the chain of a refused request names. Only builders that another thread runs above a cell
of the chain are left out. -/
theorem cycle_chain (m₀ : Machine T C σ α) (fresh : m₀.Fresh)
    (enabled : m₀.detector.isEnabled = true) (schedule : List T) (t : T) (r : Request T C σ α)
    (outer : List (Request T C σ α)) (chain : List C)
    (found : (m₀.runSchedule schedule).threads.get? t = some (.request .register r outer))
    (refused : (m₀.runSchedule schedule).detector.request t r.cell = .error chain) :
    let m := m₀.runSchedule schedule
    m.answer? t = some (r.cell, .error (.cycle (chain.map m.label))) ∧
    2 ≤ chain.length ∧ chain.head? = chain.getLast? ∧
    (chain.IsChain fun x y => ∃ u between, m.Leads u between x y ∧ (u = t → between = [])) ∧
    (∀ u between x y, m.Leads u between x y →
      (x :: (between ++ [y])).IsChain (m₀.Asked schedule)) ∧
    ((r.cell ∈ outer.map Request.cell ∨ ∀ u thread, u ≠ t → m.threads.get? u = some thread →
        thread.frames.length ≤ 1) →
      chain.IsChain (m₀.Asked schedule)) := by
  intro m
  have owned := owned_runSchedule fresh schedule
  have tracked := tracked_runSchedule fresh enabled schedule
  have stack : m.detector.graph.stack t = (outer.map Request.cell).reverse := by
    have entered := tracked.stack_eq t
    have here : m.roster.posture t = ⟨outer.map Request.cell, .none⟩ := posture_of_get? found
    rwa [here] at entered
  obtain ⟨rest, last, shape, onStack, ends, passes, own⟩ :=
    WaitGraph.shape_of_closing (closing_of_refused refused)
  have answer : m.answer? t = some (r.cell, .error (.cycle (chain.map m.label))) := by
    simp [answer?, m, found, refused]
  -- The part on the caller's stack has no gaps. What other threads add may skip builders.
  obtain ⟨_, since, _, starts⟩ := WaitGraph.since_eq onStack
  have caller := leads_of_since found stack onStack
  have others : (r.cell :: rest).IsChain fun x y => ∃ u between, u ≠ t ∧ m.Leads u between x y :=
    passes.imp fun _ _ => leads_of_passes tracked
  have asked : ∀ {u x y}, m.Leads u [] x y → m₀.Asked schedule x y := fun leads =>
    List.isChain_pair.1 (asked_of_leads fresh leads)
  refine ⟨answer, ?_, ?_, ?_, fun _ _ _ _ => asked_of_leads fresh, ?_⟩
  · rw [shape, starts, List.length_append, List.length_cons, List.length_cons]
    omega
  · rw [shape, starts, List.getLast?_append, ends]
    simp
  · rw [shape]
    refine List.isChain_split.2 ⟨caller.imp fun _ _ leads => ⟨t, [], leads, fun _ => rfl⟩, ?_⟩
    refine others.imp fun _ _ => ?_
    rintro ⟨u, between, other, leads⟩
    exact ⟨u, between, leads, fun same => absurd same other⟩
  · rw [shape]
    rintro (inside | shallow)
    · rw [own (stack ▸ List.mem_reverse.2 inside)]
      exact caller.imp fun _ _ => asked
    · refine List.isChain_split.2 ⟨caller.imp fun _ _ => asked, others.imp fun _ _ => ?_⟩
      rintro ⟨u, between, other, leads⟩
      exact asked (leads.direct fun thread hthread => shallow u thread other hthread)

/-- Each of three cells needs the next. Two threads ask for the first and the second. -/
def detour : Machine Bool (Fin 3) Unit Unit where
  label c := ["a", "b", "c"][c]
  cells c := .empty (.ask (c + 1))
  detector := { isEnabled := true }
  shared := ()
  threads := .ofList [(false, .run [] (.ask 0)), (true, .run [] (.ask 1))]

/-- The second thread waits for the first cell when the first thread asks for the second cell. -/
def detoured : List Bool :=
  List.replicate 6 false ++ List.replicate 15 true ++ List.replicate 2 false

theorem detour_fresh : detour.Fresh where
  cells c := ⟨.ask (c + 1), rfl⟩
  graph := rfl
  threads t thread found := by
    cases t with
    | false => exact ⟨.ask 0, (Option.some.inj found).symm⟩
    | true => exact ⟨.ask 1, (Option.some.inj found).symm⟩

theorem detour_refused :
    (detour.runSchedule detoured).detector.request false 1 = .error [0, 1, 0] := by cbv

theorem detour_found : (detour.runSchedule detoured).threads.get? false =
    some (.request .register ⟨1, Program.ofResult⟩ [⟨0, Program.ofResult⟩]) := by cbv

theorem detour_answer :
    (detour.runSchedule detoured).answer? false = some (1, .error (.cycle ["a", "b", "a"])) := by
  cbv

/-- The chain leaves out the third cell, through which the second needs the first. -/
theorem detour_chain :
    detour.Fresh ∧ detour.detector.isEnabled = true ∧
    (detour.runSchedule detoured).detector.request false 1 = .error [0, 1, 0] ∧
    ([0, 1, 0] : List (Fin 3)).IsChain fun x y => ∃ u between,
      (detour.runSchedule detoured).Leads u between x y ∧ (u = false → between = []) := by
  obtain ⟨_, _, _, leads, _, _⟩ := cycle_chain detour detour_fresh rfl detoured false
    ⟨1, Program.ofResult⟩ [⟨0, Program.ofResult⟩] [0, 1, 0] detour_found detour_refused
  exact ⟨detour_fresh, rfl, detour_refused, leads⟩

/-- The builder of the second cell asks for the third, never for the first. -/
theorem detour_not_asked : ¬ detour.Asked detoured 1 0 := by
  have never : (detoured.inits.all fun before => [false, true].all fun u =>
      ((detour.runSchedule before).threads.get? u).bind Thread.asks? != some (1, 0)) = true := by
    cbv
  rintro ⟨before, u, thread, short, found, asks⟩
  have here := List.all_eq_true.1 never before ((List.mem_inits _ _).2 short)
  have unasked := List.all_eq_true.1 here u (by cases u <;> decide)
  simp [found, asks] at unasked

/-- So a name of a chain need not be asked for by the builder of the name before it. -/
theorem detour_incomplete :
    detour.Fresh ∧ detour.detector.isEnabled = true ∧
    (detour.runSchedule detoured).answer? false = some (1, .error (.cycle ["a", "b", "a"])) ∧
    ([0, 1, 0] : List (Fin 3)).map detour.label = ["a", "b", "a"] ∧
    ¬ ([0, 1, 0] : List (Fin 3)).IsChain (detour.Asked detoured) :=
  ⟨detour_fresh, rfl, detour_answer, rfl, fun asked =>
    detour_not_asked (List.isChain_pair.1 asked.tail)⟩

end Machine
end ClusterDriver
