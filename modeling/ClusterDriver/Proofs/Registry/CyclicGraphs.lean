import ClusterDriver.Proofs.Registry.Calls
import ClusterDriver.Proofs.Registry.Contracts
/-!
# Cyclic graphs

Where the builder of each cell asks for the successors of the cell in a graph, one after the other,
and ends with the first error, the graph decides what becomes of a cell. It fails with a cycle if it
leads to one, and is built otherwise. Which thread finds the cycle, at which cell and with which
chain depends on the schedule. Nothing is assumed of the values that the builders return.
-/
namespace ClusterDriver
open Relation

namespace Program
variable {T C σ α : Type}

/-- Fails with this error, perhaps after actions that ask for nothing. -/
def Raises (error : AccessError) : Program T C σ α → Prop
  | .fail failure => failure.cause = .access error
  | .look _ next => ∀ content, (next content).Raises error
  | .stack next => ∀ cells, (next cells).Raises error
  | .update _ next => ∀ thread shared, (next thread shared).Raises error
  | .await _ next => next.Raises error
  | .ok _ | .panic | .get _ _ | .replace _ _ _ => False

/-- Asks for these cells in their order, fails with the first error that it gets, and succeeds if it
gets none. -/
def Requires : Program T C σ α → List C → Prop
  | .ok _, cells => cells = []
  | .get cell next, cells =>
    ∃ rest, cells = cell :: rest ∧ (∀ value, (next (.ok value)).Requires rest) ∧
      ∀ error, (next (.error error)).Raises error
  | .look _ next, cells => ∀ content, (next content).Requires cells
  | .stack next, cells => ∀ entered, (next entered).Requires cells
  | .update _ next, cells => ∀ thread shared, (next thread shared).Requires cells
  | .await _ next, cells => next.Requires cells
  | .fail _, _ | .panic, _ | .replace _ _ _, _ => False

theorem requires_ask (c : C) : (ask c : Program T C σ α).Requires [c] :=
  ⟨[], rfl, fun _ => rfl, fun _ => rfl⟩

end Program

section
variable {T C σ α : Type} {successors : C → List C} {c d : C}

/-- A directed cycle can be reached from the cell. -/
def ReachesCycle (successors : C → List C) (c : C) : Prop :=
  ∃ d, ReflTransGen (fun a b => b ∈ successors a) c d ∧
    TransGen (fun a b => b ∈ successors a) d d

theorem ReachesCycle.of_mem (h : d ∈ successors c) (reaches : ReachesCycle successors d) :
    ReachesCycle successors c := by
  obtain ⟨e, path, cycle⟩ := reaches
  exact ⟨e, .head h path, cycle⟩

theorem ReachesCycle.exists_mem (reaches : ReachesCycle successors c) :
    ∃ d ∈ successors c, ReachesCycle successors d := by
  obtain ⟨e, path, cycle⟩ := reaches
  rcases path.cases_head with rfl | ⟨d, hd, rest⟩
  · obtain ⟨d, hd, rest⟩ := TransGen.head'_iff.1 cycle
    exact ⟨d, hd, c, rest, cycle⟩
  · exact ⟨d, hd, e, rest, cycle⟩

/-- What the graph says of a cell. -/
def Verdict (successors : C → List C) (c : C) : Except AccessError α → Prop
  | .ok _ => ¬ ReachesCycle successors c
  | .error error => ReachesCycle successors c ∧ ∃ chain, error = .cycle chain

theorem Verdict.error_iff {result : Except AccessError α} (h : Verdict successors c result) :
    (∃ chain, result = .error (.cycle chain)) ↔ ReachesCycle successors c := by
  cases result with
  | ok value =>
    refine ⟨?_, fun reaches => absurd reaches h⟩
    rintro ⟨chain, heq⟩
    cases heq
  | error error =>
    obtain ⟨reaches, chain, rfl⟩ := h
    exact ⟨fun _ => reaches, fun _ => ⟨chain, rfl⟩⟩

theorem Verdict.ok_iff {result : Except AccessError α} (h : Verdict successors c result) :
    (∃ value, result = .ok value) ↔ ¬ ReachesCycle successors c := by
  cases result with
  | ok value => exact ⟨fun _ => h, fun _ => ⟨value, rfl⟩⟩
  | error error =>
    refine ⟨?_, fun free => absurd h.1 free⟩
    rintro ⟨value, heq⟩
    cases heq

/-- The outcome of a cell is the verdict of the graph, whatever is complete. -/
def graphContract (label : C → String) (successors : C → List C) : Contract C α where
  label
  depends a b := b ∈ successors a
  admits _ := Verdict successors
  admits_mono _ verdict := verdict
  admits_refusal _ _ _ cycle := ⟨⟨_, .refl, cycle⟩, _, rfl⟩

theorem keeps_of_raises {label : C → String} {known : Set C} {chain : List String}
    {p : Program T C σ α} (raises : p.Raises (.cycle chain)) (reaches : ReachesCycle successors c) :
    (graphContract label successors).Keeps known c p := by
  induction p with
  | fail failure =>
    refine ⟨reaches, chain, ?_⟩
    rw [Failure.attributedTo, show failure.cause = _ from raises]
  | look d next ih => exact fun content => ih content (raises content)
  | stack next ih => exact fun cells => ih cells (raises cells)
  | update change next ih => exact fun thread shared => ih thread shared (raises thread shared)
  | await gate next ih => exact ih raises
  | ok _ | panic | get _ _ _ | replace _ _ _ _ _ => exact raises.elim

/-- What is left of a builder has the remaining successors to ask for, and those before them lead to
no cycle. -/
theorem keeps_of_requires {label : C → String} {known : Set C} {p : Program T C σ α}
    {asked rest : List C} (requires : p.Requires rest) (split : successors c = asked ++ rest)
    (free : ∀ d ∈ asked, ¬ ReachesCycle successors d) :
    (graphContract label successors).Keeps known c p := by
  induction p generalizing asked rest known with
  | ok value =>
    have last : rest = [] := requires
    subst last
    rw [List.append_nil] at split
    intro reaches
    obtain ⟨d, hd, cycle⟩ := reaches.exists_mem
    exact free d (split ▸ hd) cycle
  | get d next ih =>
    obtain ⟨rest, rfl, ok, error⟩ := requires
    have hd : d ∈ successors c := by simp [split]
    refine ⟨hd, fun later _ result verdict => ?_⟩
    cases result with
    | ok value =>
      have split' : successors c = (asked ++ [d]) ++ rest := by simp [split]
      refine ih _ (ok value) split' fun e he => ?_
      rcases List.mem_append.1 he with old | new
      · exact free e old
      · obtain rfl := List.mem_singleton.1 new
        exact verdict
    | error e =>
      obtain ⟨reaches, chain, rfl⟩ := verdict
      exact keeps_of_raises (error _) (.of_mem hd reaches)
  | look d next ih => exact fun content => ih content (requires content) split free
  | stack next ih => exact fun cells => ih cells (requires cells) split free
  | update change next ih =>
    exact fun thread shared => ih thread shared (requires thread shared) split free
  | await gate next ih => exact ih requires split free
  | fail _ | panic | replace _ _ _ _ _ => exact requires.elim

end

namespace Machine
variable {T C σ α : Type} [DecidableEq T] [DecidableEq C] {m₀ : Machine T C σ α}

/-- The cells depend on each other as the graph says. -/
structure OnGraph (m : Machine T C σ α) (successors : C → List C) : Prop where
  callers : ∀ t program, m.threads.get? t = some (.run [] program) → program.Steady
  builders : ∀ c builder, m.cells c = .empty builder → builder.Requires (successors c)

omit [DecidableEq C] in
theorem OnGraph.under {successors : C → List C} (onGraph : m₀.OnGraph successors) :
    m₀.Under (graphContract m₀.label successors) where
  label := rfl
  callers := onGraph.callers
  builders c builder hc :=
    keeps_of_requires (onGraph.builders c builder hc) (List.nil_append _).symm
      fun _ hd => absurd hd List.not_mem_nil

omit [DecidableEq T] [DecidableEq C] in
theorem verdict_of_completed {m : Machine T C σ α} {successors : C → List C} {c : C}
    (verdict : ∀ result, (m.content c).outcome? = some result → Verdict successors c result)
    (complete : c ∈ m.completed) :
    ((∃ chain, m.cells c = .failed (.cycle chain)) ↔ ReachesCycle successors c) ∧
      ((∃ value, m.cells c = .built value) ↔ ¬ ReachesCycle successors c) := by
  obtain ⟨result, complete⟩ := complete
  have decided := verdict result complete
  rw [← decided.ok_iff, ← decided.error_iff, outcome_eq_some.1 complete]
  cases result <;> simp [Cell.ofResult]

/-- Where the builders keep a contract, detection is on and every thread gets its turns, every
request is answered within the contract. -/
theorem request_answered [Finite C] {k : Contract C α} (fresh : m₀.Fresh) (under : m₀.Under k)
    (enabled : m₀.detector.isEnabled = true) (ungated : m₀.Ungated) (schedule : List T)
    (turns : Nat → T) (fair : (m₀.runSchedule schedule).FairTurns turns) {t : T}
    {r : Request T C σ α} {outer : List (Request T C σ α)}
    (inside : (m₀.runSchedule schedule).Inside t (r :: outer)) :
    ∃ n result, (∃ known, k.admits known r.cell result) ∧
      ((m₀.runSchedule schedule).runSchedule (firstTurns turns n)).threads.get? t =
        some (.run outer (r.next result)) := by
  obtain ⟨n, returns⟩ := request_returns fresh enabled ungated schedule turns fair inside
  rcases returns with ⟨result, answered, goesOn⟩ | ⟨panicked, _⟩
  · have admitted := admits_of_answer fresh under _ answered
    exact ⟨n + 1, result, ⟨_, admitted⟩, runSchedule_append m₀ schedule _ ▸ goesOn⟩
  · obtain ⟨_, heq, _⟩ := ((keeping_runSchedule fresh under _).threads t _ panicked).1
    cases heq

theorem crossing_on_graph : crossing.OnGraph fun c => [!c] where
  callers t program found := by
    cases t with
    | false =>
      cases Option.some.inj found
      exact Program.steady_ask false
    | true =>
      cases Option.some.inj found
      exact Program.steady_ask true
  builders c builder hc := by
    cases hc
    exact Program.requires_ask (!c)

end Machine
end ClusterDriver
