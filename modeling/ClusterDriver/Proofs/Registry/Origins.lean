import ClusterDriver.Proofs.Registry.Propagation
import ClusterDriver.Proofs.Registry.WriteOnce
/-!
# Origins of errors

Where builders end with the first error that they are answered, under whatever contexts, the error
that a caller gets was raised by one builder or is the refusal of one request, and has come from
there unchanged: every builder on the way asked for the next cell, was answered with this very error
and made its own cell fail with it. What was answered, raised and refused is read off the run, in
any interleaving of any number of threads, with detection on or off.
-/
namespace ClusterDriver.Machine
variable {T C σ α : Type} [DecidableEq T] [DecidableEq C] {m m' m₀ : Machine T C σ α} {t : T}
  {c d : C} {schedule : List T} {error : AccessError}

/-- The answer that the next action of `t` gives to the builder of `c`, for the cell for which this
builder asked. -/
def hears? (c : C) (m : Machine T C σ α) (t : T) : Option (C × Except AccessError α) :=
  match m.threads.get? t with
  | some (.request _ _ (r :: _)) => if r.cell = c then m.answer? t else none
  | _ => none

/-- The failure with which the builder of `c` ends by the next action of `t`. -/
def fails? (c : C) (m : Machine T C σ α) (t : T) : Option Failure :=
  match m.threads.get? t with
  | some (.run (r :: _) (.fail failure)) => if r.cell = c then some failure else none
  | _ => none

/-- The answers that the builder of `c` was given. -/
def heard (m₀ : Machine T C σ α) (schedule : List T) (c : C) : List (C × Except AccessError α) :=
  observed (hears? c) m₀ schedule

/-- The builder of `c` was not answered with an error. -/
def Quiet (m₀ : Machine T C σ α) (schedule : List T) (c : C) : Prop :=
  ∀ d error, (d, .error error) ∉ m₀.heard schedule c

/-- The builder of `c` failed without having been answered with an error. -/
def Raised (m₀ : Machine T C σ α) (schedule : List T) (c : C) (failure : Failure) : Prop :=
  ∃ before t after, schedule = before ++ t :: after ∧
    (m₀.runSchedule before).fails? c t = some failure ∧ m₀.Quiet before c

/-- A request of the builder of `c` was refused with this error. -/
def Refused (m₀ : Machine T C σ α) (schedule : List T) (c : C) (error : AccessError) : Prop :=
  ∃ before t after d, schedule = before ++ t :: after ∧
    (m₀.runSchedule before).hears? c t = some (d, .error error) ∧
    (m₀.runSchedule before).RefusedWith t d (.error error)

/-- Where the error comes from with which the builder of `c` ends. -/
inductive Traced (m₀ : Machine T C σ α) (schedule : List T) (error : AccessError) : C → Prop
  | raised {c : C} {failure : Failure} (raised : m₀.Raised schedule c failure)
      (same : failure.attributedTo (m₀.label c) = error) : Traced m₀ schedule error c
  | refused {c : C} (refused : m₀.Refused schedule c error) : Traced m₀ schedule error c
  | passed {c d : C} (heard : (d, .error error) ∈ m₀.heard schedule c)
      (failed : (m₀.runSchedule schedule).cells d = .failed error)
      (origin : Traced m₀ schedule error d) : Traced m₀ schedule error c

theorem heard_concat (m₀ : Machine T C σ α) (schedule : List T) (t : T) (c : C) :
    m₀.heard (schedule ++ [t]) c =
      m₀.heard schedule c ++ ((m₀.runSchedule schedule).hears? c t).toList :=
  observed_concat (hears? c) m₀ schedule t

theorem Quiet.concat (quiet : m₀.Quiet schedule c)
    (silent : ∀ d error, (m₀.runSchedule schedule).hears? c t ≠ some (d, .error error)) :
    m₀.Quiet (schedule ++ [t]) c := by
  intro d error told
  rw [heard_concat, List.mem_append, Option.mem_toList] at told
  exact told.elim (quiet d error) (silent d error)

theorem Raised.concat {failure : Failure} (raised : m₀.Raised schedule c failure) (t : T) :
    m₀.Raised (schedule ++ [t]) c failure := by
  obtain ⟨before, u, after, rfl, fails, quiet⟩ := raised
  exact ⟨before, u, after ++ [t], by simp, fails, quiet⟩

theorem Refused.concat (refused : m₀.Refused schedule c error) (t : T) :
    m₀.Refused (schedule ++ [t]) c error := by
  obtain ⟨before, u, after, d, rfl, hears, refusal⟩ := refused
  exact ⟨before, u, after ++ [t], d, by simp, hears, refusal⟩

theorem Traced.concat (fresh : m₀.Fresh) (traced : m₀.Traced schedule error c) (t : T) :
    m₀.Traced (schedule ++ [t]) error c := by
  induction traced with
  | raised raised same => exact .raised (raised.concat t) same
  | refused refused => exact .refused (refused.concat t)
  | passed heard failed _ ih =>
    refine .passed ?_ ?_ ih
    · rw [heard_concat]
      exact List.mem_append_left _ heard
    · exact outcome_eq_error.1 (outcome_runSchedule fresh schedule [t] (outcome_eq_error.2 failed))

theorem hears_eq_some {answer : C × Except AccessError α} : m.hears? c t = some answer ↔
    ∃ stage r r' outer, m.threads.get? t = some (.request stage r (r' :: outer)) ∧ r'.cell = c ∧
      m.answer? t = some answer := by
  unfold hears?
  split
  · next stage r r' outer found =>
    constructor
    · intro h
      obtain ⟨here, answered⟩ := Option.ite_none_right_eq_some.1 h
      exact ⟨stage, r, r', outer, found, here, answered⟩
    · rintro ⟨_, _, _, _, found', here, answered⟩
      cases found.symm.trans found'
      rw [if_pos here, answered]
  · next other =>
    constructor
    · intro h
      cases h
    · rintro ⟨stage, r, r', outer, found, _⟩
      exact absurd found (other stage r r' outer)

/-- Only the thread that builds a cell hears answers for it. -/
theorem held_of_hears {answer : C × Except AccessError α} (hears : m.hears? c t = some answer) :
    c ∈ (m.posture t).held := by
  obtain ⟨stage, r, r', outer, found, rfl, _⟩ := hears_eq_some.1 hears
  rw [posture_of_get? found]
  exact Posture.held_of_mem_entered (Thread.entered_of_frames List.mem_cons_self)

theorem answer_of_stuck (stuck : m.step t = none) : m.answer? t = none := by
  unfold answer?
  split
  · next r outer found =>
    cases complete : (m.content r.cell).outcome? with
    | none => rfl
    | some result => simp [step, found, requestStep, complete] at stuck
  · next r outer found =>
    cases request : m.detector.request t r.cell with
    | ok detector => rfl
    | error chain => simp [step, found, requestStep, request] at stuck
  · next found => simp [step, found, requestStep] at stuck
  · next found => simp [step, found, requestStep] at stuck
  · rfl

theorem hears_of_silent (silent : m.answer? t = none) : m.hears? c t = none := by
  refine Option.eq_none_iff_forall_ne_some.2 fun answer hears => ?_
  obtain ⟨_, _, _, _, _, _, answered⟩ := hears_eq_some.1 hears
  cases silent.symm.trans answered

theorem Quiet.of_silent (quiet : m₀.Quiet schedule c)
    (silent : (m₀.runSchedule schedule).answer? t = none) : m₀.Quiet (schedule ++ [t]) c := by
  refine quiet.concat fun d error => ?_
  simp [hears_of_silent silent]

/-- After a schedule, builders that were not run propagate, and what cells and threads say of errors
comes from the run. -/
structure Relaying (m₀ : Machine T C σ α) (schedule : List T) (m : Machine T C σ α) : Prop where
  builders : ∀ c builder, m.cells c = .empty builder → builder.Propagates ∧ m₀.Quiet schedule c
  failures : ∀ c error, m.cells c = .failed error → m₀.Traced schedule error c
  threads : ∀ t thread, m.threads.get? t = some thread →
    ThreadRelays (m₀.Quiet schedule) (m₀.Traced schedule) thread

/-- An answer is passed on to the program of the thread or to the builder that asked for it. -/
theorem relaying_answer (fresh : m₀.Fresh)
    (relaying : m₀.Relaying schedule (m₀.runSchedule schedule)) {stage : Stage T C σ α}
    {r : Request T C σ α} {outer : List (Request T C σ α)} {result : Except AccessError α}
    (found : (m₀.runSchedule schedule).threads.get? t = some (.request stage r outer))
    (answered : (m₀.runSchedule schedule).answer? t = some (r.cell, result)) :
    ThreadRelays (m₀.Quiet (schedule ++ [t])) (m₀.Traced (schedule ++ [t]))
      (.run outer (r.next result)) := by
  cases (relaying.threads t _ found).2 with
  | outermost steady => exact steady result
  | @inner _ r' outer ok error silent outside =>
    have hears := hears_eq_some.2 ⟨stage, r, r', outer, found, rfl, answered⟩
    have once := List.nodup_cons.1 (frames_nodup (owned_runSchedule fresh schedule) found)
    have others : ∀ c ∈ outer.map Request.cell, m₀.Quiet schedule c →
        m₀.Quiet (schedule ++ [t]) c := by
      intro c hc quiet
      refine quiet.concat fun d e hears' => ?_
      obtain ⟨_, _, _, _, found', rfl, _⟩ := hears_eq_some.1 hears'
      cases found.symm.trans found'
      exact once.1 hc
    refine ⟨?_, outside.mono others⟩
    cases result with
    | ok value =>
      refine Or.inl ⟨ok value, silent.concat fun d e hears' => ?_⟩
      cases hears.symm.trans hears'
    | error e =>
      refine Or.inr ⟨e, ?_, error e⟩
      rcases outcome_of_answer (agreement_runSchedule fresh schedule t) answered with
        complete | refusal
      · have failed := outcome_eq_some.1 complete
        have origin := (relaying.failures r.cell e failed).concat fresh t
        have stays := outcome_runSchedule fresh schedule [t] complete
        refine .passed ?_ (outcome_eq_error.1 stays) origin
        rw [heard_concat, hears]
        exact List.mem_append_right _ List.mem_cons_self
      · exact .refused ⟨schedule, t, [], r.cell, rfl, hears, refusal⟩

/-- A builder that ends fails with the error that it was answered, or with its own failure. -/
theorem relaying_conclude (fresh : m₀.Fresh) {requests : List (Request T C σ α)}
    {program : Program T C σ α} {outcome : Outcome Failure α}
    (found : (m₀.runSchedule schedule).threads.get? t = some (.run requests program))
    (relaying : ThreadRelays (m₀.Quiet schedule) (m₀.Traced schedule) (.run requests program))
    (ends : program.outcome? = some outcome) :
    ThreadRelays (m₀.Quiet (schedule ++ [t])) (m₀.Traced (schedule ++ [t]))
      ((m₀.runSchedule schedule).ended outcome requests) := by
  have silent : (m₀.runSchedule schedule).answer? t = none := by simp [answer?, found]
  cases requests with
  | nil => trivial
  | cons r outer =>
    refine ⟨?_, relaying.2.mono fun c _ quiet => quiet.of_silent silent⟩
    rcases relaying.1 with ⟨propagates, quiet⟩ | ⟨error, origin, raises⟩
    · cases program with
      | ok value =>
        obtain rfl := Option.some.inj ends
        exact ⟨.ok value, rfl, by simp⟩
      | fail failure =>
        obtain rfl := Option.some.inj ends
        refine ⟨_, rfl, fun error heq => ?_⟩
        have fails : (m₀.runSchedule schedule).fails? r.cell t = some failure := by
          simp [fails?, found]
        refine .raised ⟨schedule, t, [], rfl, fails, quiet⟩ ?_
        rw [← label_runSchedule m₀ schedule]
        exact Except.error.inj heq
      | panic => exact propagates.elim
      | get _ _ | look _ _ | replace _ _ _ | stack _ | update _ _ | await _ _ => cases ends
    · cases program with
      | fail failure =>
        obtain rfl := Option.some.inj ends
        have cause : failure.cause = .access error := raises
        have same : failure.attributedTo ((m₀.runSchedule schedule).label r.cell) = error := by
          rw [Failure.attributedTo, cause]
        refine ⟨_, rfl, fun error' heq => ?_⟩
        obtain rfl := same.symm.trans (Except.error.inj heq)
        exact origin.concat fresh t
      | ok _ | panic => exact raises.elim
      | get _ _ | look _ _ | replace _ _ _ | stack _ | update _ _ | await _ _ => cases ends

theorem relaying_turn (fresh : m₀.Fresh) (relaying : m₀.Relaying schedule (m₀.runSchedule schedule))
    {thread new : Thread T C σ α} (found : (m₀.runSchedule schedule).threads.get? t = some thread)
    (turn : Turn (m₀.runSchedule schedule) t thread m') (hnew : m'.threads.get? t = some new) :
    ThreadRelays (m₀.Quiet (schedule ++ [t])) (m₀.Traced (schedule ++ [t])) new := by
  have here := relaying.threads t thread found
  have later : (m₀.runSchedule schedule).answer? t = none →
      ThreadRelays (m₀.Quiet (schedule ++ [t])) (m₀.Traced (schedule ++ [t])) thread := by
    intro silent
    exact here.mono (fun c _ quiet => quiet.of_silent silent)
      fun e c origin => origin.concat fresh t
  cases turn with
  | conclude ends =>
    obtain rfl := get?_setThread_self hnew
    exact relaying_conclude fresh found here ends
  | ask =>
    obtain rfl := get?_setThread_self hnew
    exact (later (by simp [answer?, found])).ask
  | look =>
    obtain rfl := get?_setThread_self hnew
    exact (later (by simp [answer?, found])).continue (fun steady => steady.2 _)
      (fun propagates => propagates _) fun _ raises => raises _
  | replace => exact here.not_replace.elim
  | stack =>
    obtain rfl := get?_setThread_self hnew
    exact (later (by simp [answer?, found])).continue (fun steady => steady.2 _)
      (fun propagates => propagates _) fun _ raises => raises _
  | update =>
    obtain rfl := get?_setThread_self hnew
    exact (later (by simp [answer?, found])).continue (fun steady => steady.2 _ _)
      (fun propagates => propagates _ _) fun _ raises => raises _ _
  | await _ =>
    obtain rfl := get?_setThread_self hnew
    exact (later (by simp [answer?, found])).continue (fun steady => steady.2)
      (fun propagates => propagates) fun _ raises => raises
  | reuse complete =>
    obtain rfl := get?_setThread_self hnew
    exact relaying_answer fresh relaying found (by simp [answer?, found, complete])
  | refuse refused =>
    obtain rfl := get?_setThread_self hnew
    exact relaying_answer fresh relaying found (by simp [answer?, found, refused])
  | release | leave =>
    obtain rfl := get?_setThread_self hnew
    exact relaying_answer fresh relaying found (by simp [answer?, found])
  | approach incomplete =>
    obtain rfl := get?_setThread_self hnew
    exact ⟨trivial, (later (by simp [answer?, found, incomplete])).2⟩
  | wait allowed =>
    obtain rfl := get?_setThread_self hnew
    exact ⟨trivial, (later (by simp [answer?, found, allowed])).2⟩
  | serve _ =>
    obtain rfl := get?_setThread_self hnew
    exact ⟨trivial, (later (by simp [answer?, found])).2⟩
  | claim free =>
    obtain rfl := get?_setThread_self hnew
    have silent : (m₀.runSchedule schedule).answer? t = none := by simp [answer?, found]
    obtain ⟨propagates, quiet⟩ := relaying.builders _ _ free
    exact ⟨⟨propagates, quiet.of_silent silent⟩, (later silent).2⟩
  | clear =>
    obtain rfl := get?_setThread_self hnew
    exact later (by simp [answer?, found])
  | enter =>
    obtain rfl := get?_setThread_self hnew
    have held := later (by simp [answer?, found])
    exact ⟨Or.inl held.1, held.2⟩
  | publish =>
    obtain rfl := get?_setThread_self hnew
    exact later (by simp [answer?, found])
  | unwind =>
    obtain ⟨_, heq, _⟩ := here.1
    cases heq

theorem Relaying.turn (fresh : m₀.Fresh) (relaying : m₀.Relaying schedule (m₀.runSchedule schedule))
    {thread : Thread T C σ α} (found : (m₀.runSchedule schedule).threads.get? t = some thread)
    (turn : Turn (m₀.runSchedule schedule) t thread m') : m₀.Relaying (schedule ++ [t]) m' := by
  have owned := owned_runSchedule fresh schedule
  have here := relaying.threads t thread found
  -- Whoever hears an answer builds the cell, so cells of others are as quiet as before.
  have apart : ∀ c, c ∉ ((m₀.runSchedule schedule).posture t).held → m₀.Quiet schedule c →
      m₀.Quiet (schedule ++ [t]) c := by
    intro c unheld quiet
    exact quiet.concat fun d e hears => unheld (held_of_hears hears)
  constructor
  · intro c builder hc
    rcases empty_turn turn hc with free | ⟨_, _, _, rfl, _⟩
    · obtain ⟨propagates, quiet⟩ := relaying.builders c builder free
      refine ⟨propagates, apart c (fun held => ?_) quiet⟩
      exact owned.started t c held (by simp [roster, content, free, Cell.content, Content.status])
    · exact here.not_replace.elim
  · intro c error failed
    have change := cellTurn_of_turn turn c
    rw [failed] at change
    generalize hcell : Cell.failed error = cell at change
    cases change with
    | keep => exact (relaying.failures c error hcell.symm).concat fresh t
    | replace place _ => exact (place ▸ here).not_replace.elim
    | claim _ _ _ => cases hcell
    | @publish r outer outcome place cell =>
      subst place cell
      obtain ⟨result, rfl, origin⟩ := here.1
      cases result with
      | ok value => cases hcell
      | error e =>
        cases hcell
        exact (origin error rfl).concat fresh t
  · refine forall_threads_turn turn ?_ ?_
    · intro u other hu hother
      refine (relaying.threads u other hother).mono (fun c held quiet => ?_)
        fun e c origin => origin.concat fresh t
      refine apart c (fun held' => hu ?_) quiet
      rw [← posture_of_get? hother] at held
      exact owned.unique u t c held held'
    · exact fun new hnew => relaying_turn fresh relaying found turn hnew

/-- The programs that first ask replace no builder, and the builders end with the first error that
they are answered. -/
structure OfPropagation (m : Machine T C σ α) : Prop where
  callers : ∀ t program, m.threads.get? t = some (.run [] program) → program.Steady
  builders : ∀ c builder, m.cells c = .empty builder → builder.Propagates

theorem relaying_runSchedule (fresh : m₀.Fresh) (propagates : m₀.OfPropagation)
    (schedule : List T) : m₀.Relaying schedule (m₀.runSchedule schedule) := by
  refine schedule_induction m₀ (P := fun before => m₀.Relaying before (m₀.runSchedule before))
    ?_ ?_ ?_ schedule
  · constructor
    · exact fun c builder hc => ⟨propagates.builders c builder hc, fun _ _ => List.not_mem_nil⟩
    · intro c error failed
      obtain ⟨builder, hc⟩ := fresh.cells c
      cases hc.symm.trans failed
    · intro t thread found
      obtain ⟨program, rfl⟩ := fresh.threads t thread found
      exact propagates.callers t program found
  · intro before t relaying stuck same
    have silent := answer_of_stuck stuck
    rw [same]
    constructor
    · intro c builder hc
      exact (relaying.builders c builder hc).imp id fun quiet => quiet.of_silent silent
    · exact fun c error failed => (relaying.failures c error failed).concat fresh t
    · intro u thread found
      exact (relaying.threads u thread found).mono (fun c _ quiet => quiet.of_silent silent)
        fun e c origin => origin.concat fresh t
  · exact fun before t thread relaying found turn => relaying.turn fresh found turn

/-- A way of the error from one cell to the next, from that of the request to that of its origin. -/
structure Trail (m₀ : Machine T C σ α) (schedule : List T) (error : AccessError) (cells : List C)
    (origin : C) : Prop where
  asked : cells.IsChain fun c d => (d, .error error) ∈ m₀.heard schedule c
  failed : ∀ c ∈ cells, (m₀.runSchedule schedule).cells c = .failed error
  last : cells.getLast? = some origin
  /-- The builder of the last cell raised the error itself, or had a request refused with it. -/
  source : (∃ failure, m₀.Raised schedule origin failure ∧
      (∀ own, failure.cause = .access own → error = own) ∧
      ∀ messages, failure.cause = .foreign messages →
        error = .build (m₀.label origin) (": ".intercalate (failure.contexts ++ messages))) ∨
    m₀.Refused schedule origin error

theorem trail_of_traced (traced : m₀.Traced schedule error c)
    (failed : (m₀.runSchedule schedule).cells c = .failed error) :
    ∃ rest origin, m₀.Trail schedule error (c :: rest) origin := by
  induction traced with
  | @raised c failure raised same =>
    refine ⟨[], c, .singleton c, by simpa using failed, rfl, Or.inl ⟨failure, raised, ?_, ?_⟩⟩
    · intro own cause
      rw [← same, Failure.attributedTo, cause]
    · intro messages cause
      rw [← same, Failure.attributedTo, cause]
  | @refused c refused => exact ⟨[], c, .singleton c, by simpa using failed, rfl, Or.inr refused⟩
  | @passed c d heard failed' _ ih =>
    obtain ⟨rest, origin, trail⟩ := ih failed'
    refine ⟨d :: rest, origin, trail.asked.cons_cons heard, ?_, ?_, trail.source⟩
    · simpa [failed] using trail.failed
    · rw [List.getLast?_cons_cons]
      exact trail.last

inductive Part where
  | session
  | pool
  | socket
  deriving DecidableEq

/-- Passes on what it is answered, an error under a context of its own. -/
def relayed : Except AccessError Unit → Program Unit Part Unit Unit
  | .ok value => .ok value
  | .error error => .fail ((Failure.ofAccess error).addContexts ["no socket"])

/-- Two cells need a third one, which fails. -/
def sharedFault : Machine Unit Part Unit Unit where
  label
    | .session => "session"
    | .pool => "pool"
    | .socket => "socket"
  cells
    | .socket => .empty (.fail { contexts := ["opening"], cause := .foreign ["refused"] })
    | .session | .pool => .empty (.get .socket relayed)
  detector := { isEnabled := true }
  shared := ()
  threads := .ofList [((), .run [] (.get .pool fun _ => .ask .session))]

theorem sharedFault_fresh : sharedFault.Fresh where
  cells
    | .socket => ⟨_, rfl⟩
    | .session | .pool => ⟨_, rfl⟩
  graph := rfl
  threads _ _ found := ⟨_, (Option.some.inj found).symm⟩

theorem sharedFault_propagates : sharedFault.OfPropagation where
  callers t program found := by
    cases Option.some.inj found
    exact ⟨by simp, fun _ => Program.steady_ask Part.session⟩
  builders c builder hc := by
    cases c with
    | socket =>
      cases hc
      trivial
    | session | pool =>
      cases hc
      exact ⟨fun _ => trivial, fun _ => rfl⟩

end ClusterDriver.Machine
