import ClusterDriver.Proofs.Registry.BuilderEndings
/-!
# Write once

However many threads ask for a cell, look at it and put builders into it, its builder is run at most
once, and all who are answered get the one outcome. A request that the detector refuses is no
exception: it is not answered by the cell.
-/
namespace ClusterDriver.Machine
variable {T C σ α : Type} [DecidableEq T] [DecidableEq C] {m m' m₀ : Machine T C σ α} {t : T}
  {c : C}

/-- The request for `c` that `t` is about to register is refused, with this result. -/
def RefusedWith (m : Machine T C σ α) (t : T) (c : C) (result : Except AccessError α) : Prop :=
  ∃ r outer chain, m.threads.get? t = some (.request .register r outer) ∧ r.cell = c ∧
    m.detector.request t c = .error chain ∧ result = .error (.cycle (chain.map m.label))

/-- An answer is the outcome of the cell, or a refusal. -/
theorem outcome_of_answer (agrees : ∀ thread, m.threads.get? t = some thread → m.Agrees thread)
    {result : Except AccessError α} (answered : m.answer? t = some (c, result)) :
    (m.content c).outcome? = some result ∨ m.RefusedWith t c result := by
  unfold answer? at answered
  split at answered
  · next r outer found =>
    obtain ⟨_, complete, heq⟩ := Option.map_eq_some_iff.1 answered
    cases heq
    exact Or.inl complete
  · next r outer found =>
    split at answered
    · next chain refused =>
      cases answered
      exact Or.inr ⟨r, outer, chain, found, rfl, refused, rfl⟩
    · cases answered
  · next found =>
    cases answered
    exact Or.inl (agrees _ found)
  · next r outer found =>
    cases answered
    exact Or.inl ((agrees _ found).trans (outcome_settled_returned m r.cell result))
  · cases answered

omit [DecidableEq T] [DecidableEq C] in
theorem content_eq_of_outcome {result : Except AccessError α}
    (before : (m.content c).outcome? = some result)
    (after : (m'.content c).outcome? = some result) : m'.content c = m.content c := by
  simp only [content, outcome_eq_some.1 before, outcome_eq_some.1 after]

/-- A cell of which this holds after every schedule is written once. -/
structure WrittenOnce (m₀ : Machine T C σ α) (c : C) (original : Program T C σ α)
    (schedule : List T) (m : Machine T C σ α) : Prop where
  invoked : (m₀.invocations schedule).count c ≤ 1
  /-- The next action, whose ever it is, leaves the status or advances it. -/
  advances : ∀ t, let m' := m₀.runSchedule (schedule ++ [t])
    (m'.content c).status = (m.content c).status ∨
      (m.content c).status.Advances (m'.content c).status
  stays : ∀ later, (m.content c).status = .built ∨ (m.content c).status = .failed →
    (m₀.runSchedule (schedule ++ later)).content c = m.content c
  /-- The builder that was run is the last one whose replacement took effect. -/
  runs_last : ∀ builder ∈ observed (begins? c) m₀ schedule,
    builder = m₀.lastInstalled c original schedule
  replaces : ∀ builder, ((m.replace c builder).1 = true ↔ (m.content c).status = .empty) ∧
    ((m.replace c builder).1 = false → (m.replace c builder).2 = m)
  published : observed (publishes? c) m₀ schedule = (m.content c).outcome?.toList
  /-- Whoever ran the builder, the outcome is the one that it came to. -/
  ended : ∀ result, (m.content c).outcome? = some result → ∃ t r outer ending, r.cell = c ∧
    m₀.RanTo schedule t r outer ending ∧ result = ending.toResult (m₀.label c)
  /-- A builder that has come to an end is followed by its outcome. -/
  ends : ∀ t r outer program ending, r.cell = c →
    m.threads.get? t = some (.run (r :: outer) program) → program.outcome? = some ending →
    ∀ later, later.count t = 3 →
      let m' := m₀.runSchedule (schedule ++ later)
      m'.threads.get? t = some (.run outer (r.resumed (m₀.label c) ending)) ∧
        (m'.content c).outcome? = some (ending.toResult (m₀.label c))
  /-- A request ends with the outcome, if it is not refused, or with the panic of the builder that
  it ran itself. -/
  returns : ∀ t u r outer, r.cell = c → m.Inside u (r :: outer) →
    let m' := m₀.runSchedule (schedule ++ [t])
    ¬ m'.Inside u (r :: outer) →
      (∃ result, m'.threads.get? u = some (.run outer (r.next result)) ∧
        ((m.content c).outcome? = some result ∨ m.RefusedWith u c result)) ∨
      (∃ before, before <+: schedule ∧
        (m₀.runSchedule before).threads.get? u = some (.run (r :: outer) .panic)) ∧
      m.threads.get? u = some (.request (.published .panicked) r outer) ∧
        m'.threads.get? u = some (.run outer .panic)
  /-- A panic of the builder goes on outside of the request that runs it, and from then on the cell
  says that it panicked. -/
  unwinds : ∀ t r outer, r.cell = c → m.threads.get? t = some (.run (r :: outer) .panic) →
    ∀ later, later.count t = 3 →
      let m' := m₀.runSchedule (schedule ++ later)
      m'.threads.get? t = some (.run outer .panic) ∧
        (m'.content c).outcome? = some (.error (.build (m₀.label c) "builder panicked"))
  /-- Once the cell is complete, every request for it that is under way or made later is answered
  with the outcome, by the actions of its own thread alone. -/
  serves : ∀ result, (m.content c).outcome? = some result →
    ∀ t outer next thread later, m.threads.get? t = some thread →
      Served c outer next result (later.count t) thread →
      (m₀.runSchedule (schedule ++ later)).threads.get? t = some (.run outer (next result))
  peeks : ∀ value, (m.content c).peek = some value ↔ m.cells c = .built value

omit [DecidableEq T] [DecidableEq C] in
theorem outcome_of_status (done : (m.content c).status = .built ∨ (m.content c).status = .failed) :
    ∃ result, (m.content c).outcome? = some result := by
  cases hcell : m.cells c <;>
    simp [content, hcell, Cell.content, Content.status, Content.outcome?] at done ⊢

/-- One thread replaces the builder by one that panics and asks for the cell; the other one asks
for it meanwhile. -/
def swapping : Machine Bool Unit Unit Nat where
  label _ := "cell"
  cells _ := .empty (.ok 1)
  detector := { isEnabled := false }
  shared := ()
  threads := .ofList
    [(false, .run [] (.replace () .panic fun _ => .ask ())), (true, .run [] (.ask ()))]

theorem swapping_fresh : swapping.Fresh where
  cells _ := ⟨.ok 1, rfl⟩
  graph := rfl
  threads t thread found := by
    cases t with
    | false => exact ⟨_, (Option.some.inj found).symm⟩
    | true => exact ⟨_, (Option.some.inj found).symm⟩

/-- Then the first thread runs the builder, and the second one waits for the cell. -/
def swapped : List Bool := List.replicate 7 false ++ List.replicate 3 true

end ClusterDriver.Machine
