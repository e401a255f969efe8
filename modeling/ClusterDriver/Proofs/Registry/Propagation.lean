import ClusterDriver.Proofs.Registry.CyclicGraphs
/-!
# Propagation

Builders that end with the first error that they are answered. While such a builder runs, either no
error was answered to it, and what is left of it still propagates, or it is on its way to fail with
the one that was. What is known of the past, which cells were answered no error and where an error
comes from, is a parameter here.
-/
namespace ClusterDriver

/-- Ends with the first error that it is answered, under any contexts. Until then it asks for cells
and may fail by itself. It neither panics nor replaces builders. -/
def Program.Propagates {T C σ α : Type} : Program T C σ α → Prop
  | .ok _ | .fail _ => True
  | .get _ next =>
    (∀ value, (next (.ok value)).Propagates) ∧ ∀ error, (next (.error error)).Raises error
  | .look _ next => ∀ content, (next content).Propagates
  | .stack next => ∀ cells, (next cells).Propagates
  | .update _ next => ∀ thread shared, (next thread shared).Propagates
  | .await _ next => next.Propagates
  | .panic | .replace _ _ _ => False

variable {T C σ α : Type} {quiet quiet' : C → Prop} {traced traced' : AccessError → C → Prop}

/-- Requests within each other, made by builders that propagate. None of these builders was answered
with an error before. -/
inductive Nested (quiet : C → Prop) : List (Request T C σ α) → Prop
  | outermost {r} (steady : ∀ result, (r.next result).Steady) : Nested quiet [r]
  | inner {r r' outer} (ok : ∀ value, (r.next (.ok value)).Propagates)
      (error : ∀ error, (r.next (.error error)).Raises error) (silent : quiet r'.cell)
      (outside : Nested quiet (r' :: outer)) : Nested quiet (r :: r' :: outer)

/-- The rest of the builder of `c`: it was not answered with an error yet, or it goes on to fail
with the one that it was answered. -/
def Relays (quiet : C → Prop) (traced : AccessError → C → Prop) (c : C) (p : Program T C σ α) :
    Prop :=
  p.Propagates ∧ quiet c ∨ ∃ error, traced error c ∧ p.Raises error

def StageRelays (quiet : C → Prop) (traced : AccessError → C → Prop) (c : C) :
    Stage T C σ α → Prop
  | .claimed builder | .cleared builder => builder.Propagates ∧ quiet c
  | .ended outcome | .published outcome =>
    ∃ result, outcome = .returned result ∧ ∀ error, result = .error error → traced error c
  | .check | .register | .inspect | .served _ => True

def ThreadRelays (quiet : C → Prop) (traced : AccessError → C → Prop) : Thread T C σ α → Prop
  | .run [] program => program.Steady
  | .run (r :: outer) program => Relays quiet traced r.cell program ∧ Nested quiet (r :: outer)
  | .request stage r outer => StageRelays quiet traced r.cell stage ∧ Nested quiet (r :: outer)
  | .done _ => True

theorem Nested.mono {r : Request T C σ α} {outer : List (Request T C σ α)}
    (still : ∀ c ∈ outer.map Request.cell, quiet c → quiet' c)
    (nested : Nested quiet (r :: outer)) : Nested quiet' (r :: outer) := by
  induction outer generalizing r with
  | nil =>
    cases nested with
    | outermost steady => exact .outermost steady
  | cons r' outer ih =>
    cases nested with
    | inner ok error silent outside =>
      exact .inner ok error (still _ List.mem_cons_self silent)
        (ih (fun c hc => still c (List.mem_cons_of_mem _ hc)) outside)

/-- What is told of the cells that a thread holds is all that matters to it. -/
theorem ThreadRelays.mono {thread : Thread T C σ α}
    (still : ∀ c ∈ thread.posture.held, quiet c → quiet' c)
    (kept : ∀ error c, traced error c → traced' error c)
    (relaying : ThreadRelays quiet traced thread) : ThreadRelays quiet' traced' thread := by
  cases thread with
  | done outcome => trivial
  | run requests program =>
    cases requests with
    | nil => exact relaying
    | cons r outer =>
      refine ⟨?_, relaying.2.mono fun c hc => still c (List.mem_cons_of_mem _ hc)⟩
      rcases relaying.1 with ⟨propagates, silent⟩ | ⟨error, origin, raises⟩
      · exact Or.inl ⟨propagates, still r.cell List.mem_cons_self silent⟩
      · exact Or.inr ⟨error, kept error r.cell origin, raises⟩
  | request stage r outer =>
    have outside : ∀ c ∈ outer.map Request.cell, quiet c → quiet' c := by
      intro c hc
      refine still c (Posture.held_of_mem_entered ?_)
      exact Thread.entered_of_frames hc
    refine ⟨?_, relaying.2.mono outside⟩
    cases stage with
    | check | register | inspect | served _ => trivial
    | claimed builder | cleared builder =>
      exact ⟨relaying.1.1, still r.cell List.mem_cons_self relaying.1.2⟩
    | ended outcome | published outcome =>
      obtain ⟨result, heq, origin⟩ := relaying.1
      exact ⟨result, heq, fun error herr => kept error r.cell (origin error herr)⟩

/-- A thread that goes on with its own program or with the builder that it runs. -/
theorem ThreadRelays.continue {requests : List (Request T C σ α)} {p q : Program T C σ α}
    (relaying : ThreadRelays quiet traced (.run requests p)) (steady : p.Steady → q.Steady)
    (propagates : p.Propagates → q.Propagates) (raises : ∀ error, p.Raises error → q.Raises error) :
    ThreadRelays quiet traced (.run requests q) := by
  cases requests with
  | nil => exact steady relaying
  | cons r outer =>
    refine ⟨relaying.1.imp (fun h => ⟨propagates h.1, h.2⟩) ?_, relaying.2⟩
    rintro ⟨error, origin, h⟩
    exact ⟨error, origin, raises error h⟩

theorem ThreadRelays.not_replace {requests : List (Request T C σ α)} {c : C}
    {builder : Program T C σ α} {next : Bool → Program T C σ α} :
    ¬ ThreadRelays quiet traced (.run requests (.replace c builder next)) := by
  intro relaying
  cases requests with
  | nil => exact relaying.head c builder next rfl
  | cons r outer =>
    rcases relaying.1 with ⟨propagates, _⟩ | ⟨_, _, raises⟩
    · exact propagates
    · exact raises

theorem ThreadRelays.ask {requests : List (Request T C σ α)} {c : C}
    {next : Except AccessError α → Program T C σ α}
    (relaying : ThreadRelays quiet traced (.run requests (.get c next))) :
    ThreadRelays quiet traced (.request .check ⟨c, next⟩ requests) := by
  cases requests with
  | nil => exact ⟨trivial, .outermost relaying.2⟩
  | cons r outer =>
    rcases relaying.1 with ⟨propagates, silent⟩ | ⟨_, _, raises⟩
    · exact ⟨trivial, .inner propagates.1 propagates.2 silent relaying.2⟩
    · exact raises.elim

end ClusterDriver
