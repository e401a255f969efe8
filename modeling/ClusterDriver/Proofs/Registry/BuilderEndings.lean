import ClusterDriver.Proofs.Registry.Service
/-!
# Builder endings

A cell is complete because its builder ended, and says how it did. From the end of the builder on it
takes three actions of its thread until the outcome is published and the thread is out of the
request, which goes on with the same outcome, or with the panic.
-/
namespace ClusterDriver

/-- What callers get of a component with this name whose builder ended so. -/
def Outcome.toResult {α : Type} (label : String) : Outcome Failure α → Except AccessError α
  | .returned (.ok value) => .ok value
  | .returned (.error failure) => .error (failure.attributedTo label)
  | .panicked => .error (.build label "builder panicked")

/-- How the requester goes on when the builder ended so that it ran itself. -/
def Request.resumed {T C σ α : Type} (r : Request T C σ α) (label : String) :
    Outcome Failure α → Program T C σ α
  | .panicked => .panic
  | .returned result => r.next ((Outcome.returned result).toResult label)

namespace Machine
variable {T C σ α : Type} [DecidableEq T] [DecidableEq C] {m m' m₀ : Machine T C σ α} {t u : T}
  {c : C} {schedule : List T} {r : Request T C σ α} {outer : List (Request T C σ α)}
  {ending : Outcome Failure α}

omit [DecidableEq T] [DecidableEq C] in
theorem attributed_returned (m : Machine T C σ α) (c : C) (result : Except Failure α) :
    m.attributed c (.returned result) =
      .returned ((Outcome.returned result).toResult (m.label c)) := by
  cases result <;> rfl

omit [DecidableEq T] [DecidableEq C] in
theorem outcome_settled_attributed (m : Machine T C σ α) (c : C) (ending : Outcome Failure α) :
    (m.settled c (m.attributed c ending)).content.outcome? =
      some (ending.toResult (m.label c)) := by
  cases ending with
  | panicked => rfl
  | returned result => rw [attributed_returned, outcome_settled_returned]

omit [DecidableEq T] [DecidableEq C] in
theorem attributed_congr (label : m.label = m'.label) (c : C) (ending : Outcome Failure α) :
    m.attributed c ending = m'.attributed c ending := by
  cases ending with
  | panicked => rfl
  | returned result => rw [attributed_returned, attributed_returned, label]

/-- In the course of a schedule `t` ran the builder of `r` to this end. -/
def RanTo (m₀ : Machine T C σ α) (schedule : List T) (t : T) (r : Request T C σ α)
    (outer : List (Request T C σ α)) (ending : Outcome Failure α) : Prop :=
  ∃ before program, before <+: schedule ∧ program.outcome? = some ending ∧
    (m₀.runSchedule before).threads.get? t = some (.run (r :: outer) program)

theorem RanTo.mono (ran : m₀.RanTo schedule t r outer ending) {longer : List T}
    (earlier : schedule <+: longer) : m₀.RanTo longer t r outer ending := by
  obtain ⟨before, program, past, ends, found⟩ := ran
  exact ⟨before, program, past.trans earlier, ends, found⟩

/-- A thread that is about to publish, or has published, ran a builder to the end that it has in
hand. -/
def Accounts (m₀ : Machine T C σ α) (schedule : List T) (t : T) : Thread T C σ α → Prop
  | .request (.ended outcome) r outer | .request (.published outcome) r outer =>
    ∃ ending, m₀.RanTo schedule t r outer ending ∧ outcome = m₀.attributed r.cell ending
  | _ => True

theorem Accounts.mono {thread : Thread T C σ α} (accounts : m₀.Accounts schedule t thread)
    {longer : List T} (earlier : schedule <+: longer) : m₀.Accounts longer t thread := by
  cases thread with
  | run | done => trivial
  | request stage r outer =>
    cases stage with
    | check | register | inspect | served | claimed | cleared => trivial
    | ended | published =>
      obtain ⟨ending, ran, same⟩ := accounts
      exact ⟨ending, ran.mono earlier, same⟩

theorem accounts_turn {thread new : Thread T C σ α}
    (found : (m₀.runSchedule schedule).threads.get? t = some thread)
    (accounts : m₀.Accounts schedule t thread) (turn : Turn (m₀.runSchedule schedule) t thread m')
    (hnew : m'.threads.get? t = some new) : m₀.Accounts schedule t new := by
  cases turn with
  | @conclude requests program ending ends =>
    obtain rfl := get?_setThread_self hnew
    cases requests with
    | nil => trivial
    | cons r outer =>
      exact ⟨ending, ⟨schedule, program, List.prefix_rfl, ends, found⟩,
        attributed_congr (label_runSchedule m₀ schedule) r.cell ending⟩
  | publish =>
    obtain rfl := get?_setThread_self hnew
    exact accounts
  | ask | look | replace | stack | update | await | reuse | approach | refuse | wait | serve | claim
  | release | clear | enter | leave | unwind =>
    obtain rfl := get?_setThread_self hnew
    trivial

theorem accounts_runSchedule (fresh : m₀.Fresh) (schedule : List T) :
    ∀ t thread, (m₀.runSchedule schedule).threads.get? t = some thread →
      m₀.Accounts schedule t thread := by
  refine schedule_induction m₀ (P := fun past => ∀ t thread,
    (m₀.runSchedule past).threads.get? t = some thread → m₀.Accounts past t thread)
    ?_ ?_ ?_ schedule
  · intro t thread found
    obtain ⟨program, rfl⟩ := fresh.threads t thread found
    trivial
  · intro before t accounts _ same u thread found
    exact (accounts u thread (same ▸ found)).mono (List.prefix_append _ _)
  · intro before t thread accounts found turn u other hother
    refine Accounts.mono ?_ (List.prefix_append before [t])
    by_cases hu : u = t
    · subst hu
      exact accounts_turn found (accounts u thread found) turn hother
    · exact accounts u other (threads_turn turn hu ▸ hother)

/-- The builder of a complete cell was run to an end, which is its outcome. -/
theorem ranTo_of_outcome (fresh : m₀.Fresh) (schedule : List T) {result : Except AccessError α}
    (complete : ((m₀.runSchedule schedule).content c).outcome? = some result) :
    ∃ t r outer ending, r.cell = c ∧ m₀.RanTo schedule t r outer ending ∧
      result = ending.toResult (m₀.label c) := by
  have among : result ∈ observed (publishes? c) m₀ schedule := by
    simp [publications fresh schedule c, complete]
  obtain ⟨before, t, after, rfl, publishes⟩ := mem_observed.1 among
  unfold publishes? at publishes
  split at publishes
  · next outcome r outer found =>
    split at publishes
    · next hc =>
      obtain ⟨ending, ran, rfl⟩ := accounts_runSchedule fresh before t _ found
      have label := label_runSchedule m₀ before
      rw [hc, attributed_congr label.symm, outcome_settled_attributed, label] at publishes
      exact ⟨t, r, outer, ending, hc, ran.mono (List.prefix_append _ _),
        (Option.some.inj publishes).symm⟩
    · cases publishes
  · cases publishes

/-- A thread that is out of a request by a panic ran a builder that panicked. -/
theorem panicked_of_published (fresh : m₀.Fresh) (schedule : List T)
    (found : (m₀.runSchedule schedule).threads.get? t =
      some (.request (.published .panicked) r outer)) :
    ∃ before, before <+: schedule ∧
      (m₀.runSchedule before).threads.get? t = some (.run (r :: outer) .panic) := by
  obtain ⟨ending, ⟨before, program, past, ends, ran⟩, same⟩ :=
    accounts_runSchedule fresh schedule t _ found
  refine ⟨before, past, ?_⟩
  cases ending with
  | returned result =>
    rw [attributed_returned] at same
    cases same
  | panicked => cases program <;> first | exact ran | cases ends

/-- What is left of a builder that ended so, by the number of actions until its thread is out of
the request. -/
inductive Concluding (m₀ : Machine T C σ α) (r : Request T C σ α) (outer : List (Request T C σ α))
    (ending : Outcome Failure α) : Nat → Thread T C σ α → Prop
  | run {program} (ends : program.outcome? = some ending) :
    Concluding m₀ r outer ending 3 (.run (r :: outer) program)
  | ended : Concluding m₀ r outer ending 2 (.request (.ended (m₀.attributed r.cell ending)) r outer)
  | published :
    Concluding m₀ r outer ending 1 (.request (.published (m₀.attributed r.cell ending)) r outer)
  | resumed :
    Concluding m₀ r outer ending 0 (.run outer (r.resumed (m₀.label r.cell) ending))

theorem step_concluding {n : Nat} {thread : Thread T C σ α}
    (found : (m₀.runSchedule schedule).threads.get? t = some thread)
    (concluding : m₀.Concluding r outer ending (n + 1) thread) :
    ∃ new, (m₀.runSchedule (schedule ++ [t])).threads.get? t = some new ∧
      m₀.Concluding r outer ending n new := by
  have label := label_runSchedule m₀ schedule
  rw [runSchedule_concat]
  cases concluding with
  | @run program ends =>
    refine ⟨_, ?_, .ended⟩
    rw [attributed_congr label.symm]
    cases program with
    | ok | fail | panic =>
      cases ends
      simp [step, found, runStep, setThread, Machine.ended]
    | get | look | replace | stack | update | await => cases ends
  | ended =>
    refine ⟨_, ?_, .published⟩
    simp [step, found, requestStep, setThread]
  | published =>
    refine ⟨_, ?_, .resumed⟩
    cases ending with
    | panicked => simp [step, found, requestStep, setThread, attributed, Request.resumed]
    | returned result =>
      rw [attributed_returned] at found
      simp [step, found, requestStep, setThread, Request.resumed]

/-- When the builder of a request has ended, its thread leaves the request, and the cell has the
outcome. -/
theorem concluded (fresh : m₀.Fresh) (schedule : List T) {program : Program T C σ α}
    (found : (m₀.runSchedule schedule).threads.get? t = some (.run (r :: outer) program))
    (ends : program.outcome? = some ending) (later : List T) (three : later.count t = 3) :
    (m₀.runSchedule (schedule ++ later)).threads.get? t =
        some (.run outer (r.resumed (m₀.label r.cell) ending)) ∧
      ((m₀.runSchedule (schedule ++ later)).content r.cell).outcome? =
        some (ending.toResult (m₀.label r.cell)) := by
  have down := countdown (t := t)
    (P := fun n schedule =>
      (n = 0 → ((m₀.runSchedule schedule).content r.cell).outcome? =
        some (ending.toResult (m₀.label r.cell))) ∧
      ∃ thread, (m₀.runSchedule schedule).threads.get? t = some thread ∧
        m₀.Concluding r outer ending n thread) ?_ ?_ later schedule
    ⟨fun h => by omega, _, found, three ▸ .run ends⟩
  · obtain ⟨complete, _, found, done⟩ := down
    cases done
    exact ⟨found, complete rfl⟩
  · rintro n schedule u hu ⟨complete, thread, found, concluding⟩
    exact ⟨fun h => outcome_runSchedule fresh schedule [u] (complete h), thread,
      (threads_concat_of_ne hu schedule).trans found, concluding⟩
  · rintro n schedule ⟨_, thread, found, concluding⟩
    refine ⟨?_, step_concluding found concluding⟩
    -- The last action leaves a request whose outcome is published already.
    rintro rfl
    cases concluding
    have label := label_runSchedule m₀ schedule
    have agrees := agreement_runSchedule fresh schedule t _ found
    refine outcome_runSchedule fresh schedule [t] (agrees.trans ?_)
    rw [attributed_congr label.symm, outcome_settled_attributed, label]

end Machine
end ClusterDriver
