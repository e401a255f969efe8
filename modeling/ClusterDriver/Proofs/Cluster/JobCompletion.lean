import ClusterDriver.Proofs.Cluster.JobOrder
import Mathlib.Algebra.Order.Group.Nat
import Mathlib.Order.Nat
/-!
# Completion of jobs

A closed task accepts nothing more, and who shut it down from outside returns after the last job.
Whether it is closed or not, every job that it accepted comes to its end where the coordination
thread gets its turns, behind jobs that panic as well. Jobs are finite, but there is no bound on how
many actions one takes, so what is assumed of the turns is only that they do not cease.
-/
namespace ClusterDriver

namespace Task
variable {σ ρ : Type} {k k' : Task σ ρ} {job : Option (Job σ ρ)} {first : Option (Nat × Job σ ρ)}
  {acting : Option Nat}

theorem closed_turn (closed : k.accepting = false) (turn : k.Turn job first acting k') :
    k'.accepting = false ∧ k'.accepted = k.accepted := by
  cases turn with
  | call job => simp [submit_of_closed closed, closed]
  | @submit _ job _ running => simp [submit_of_closed closed, closed]
  | shutdown | close running => exact ⟨rfl, rfl⟩
  | pass | begin | finish | work | execute | isRunning => exact ⟨closed, rfl⟩

theorem accepted_turn (turn : k.Turn job first acting k') : k.accepted ≤ k'.accepted := by
  have grows : ∀ job, k.accepted ≤ (k.submit job).2.accepted := by
    intro job
    unfold Task.submit
    split
    · exact Nat.le_succ _
    · exact Nat.le_refl _
  cases turn with
  | call job => exact grows job
  | submit running => exact grows _
  | pass | shutdown | begin | finish | work | execute | close | isRunning => exact Nat.le_refl _

theorem hasStopped_iff :
    k.hasStopped = true ↔ k.accepting = false ∧ k.queue = [] ∧ k.current = none := by
  simp [hasStopped, and_assoc]

theorem stopped_turn (stopped : k.hasStopped = true) (turn : k.Turn job first acting k') :
    k'.hasStopped = true := by
  obtain ⟨closed, empty, idle⟩ := hasStopped_iff.1 stopped
  cases turn with
  | pass => exact stopped
  | call job => rwa [submit_of_closed closed]
  | shutdown => exact hasStopped_iff.2 ⟨rfl, empty, idle⟩
  | begin _ queued => exact absurd (empty.symm.trans queued) (List.cons_ne_nil _ _).symm
  | finish running | work running | submit running | execute running | close running
  | isRunning running => exact absurd (idle.symm.trans running) (Option.some_ne_none _).symm

theorem Serial.ended_of_stopped {accepted begun : List (Nat × Job σ ρ)} {activity : List Nat}
    (serial : k.Serial accepted begun activity) (stopped : k.hasStopped = true) :
    k.ended.map Prod.fst = List.range k.accepted := by
  obtain ⟨_, empty, idle⟩ := hasStopped_iff.1 stopped
  rw [serial.ended_eq, serial.length_accepted, empty, idle]
  rfl

end Task

namespace Coordination
variable {T σ ρ : Type} [DecidableEq T] {o o' : Coordination T σ ρ} {t u : T}

/-- Who submits a job gets it queued behind all others, under a ticket of its own. -/
structure Accepts (o : Coordination T σ ρ) : Prop where
  call : ∀ t c job, c.job? = some job →
    (o.call t c).task = { o.task with
      accepted := o.task.accepted + 1
      queue := o.task.queue ++ [(o.task.accepted, job)] } ∧
    (o.call t c).callers.get? t ≠ some (.returned (.error .closed))
  submit : ∀ ticket job next, o.task.current = some (ticket, .submit job next) →
    o.act .tick = { o with task := { o.task with
      accepted := o.task.accepted + 1
      queue := o.task.queue ++ [(o.task.accepted, job)]
      current := some (ticket, next (.ok ())) } }

/-- Who submits a job is told that the task is closed, and nothing comes of the job. -/
structure Refuses (o : Coordination T σ ρ) : Prop where
  call : ∀ t c job, c.job? = some job → o.call t c = o.setCaller t (.returned (.error .closed))
  submit : ∀ ticket job next, o.task.current = some (ticket, .submit job next) →
    o.act .tick = { o with task :=
      { o.task with current := some (ticket, next (.error .closed)) } }

theorem accepts_of_open (accepting : o.task.accepting = true) : o.Accepts where
  call t c job h := by
    cases c <;> cases h <;> simp [Coordination.call, Task.submit, accepting, setCaller, Except.map]
  submit ticket job next running := by
    simp [act, Task.tick, running, Task.act, Task.submit, accepting, Except.map]

theorem refuses_of_closed (closed : o.task.accepting = false) : o.Refuses where
  call t c job h := by
    cases c <;> cases h <;>
      simp [Coordination.call, Task.submit_of_closed closed, setCaller, Except.map]
  submit ticket job next running := by
    simp [act, Task.tick, running, Task.act, Task.submit_of_closed closed, Except.map]

omit [DecidableEq T] in
theorem accepts_of_closed (closed : o.task.accepting = false) (a : Action T σ ρ) :
    o.accepts? a = none := by
  cases h : o.job? a <;> simp [accepts?, h, Task.submit_of_closed closed, Except.toOption]

/-- A closed task stays closed, and accepts nothing. -/
theorem closed_run (closed : o.task.accepting = false) (later : List (Action T σ ρ)) :
    (o.run later).task.accepting = false ∧ (o.run later).task.accepted = o.task.accepted ∧
      o.accepted later = [] := by
  refine run_induction o (P := fun later => (o.run later).task.accepting = false ∧
    (o.run later).task.accepted = o.task.accepted ∧ o.accepted later = []) ⟨closed, rfl, rfl⟩ ?_
    later
  intro actions a past turn
  obtain ⟨still, count, nothing⟩ := past
  obtain ⟨still', count'⟩ := Task.closed_turn still turn
  refine ⟨still', count'.trans count, ?_⟩
  have refused := accepts_of_closed still a
  have before : observed accepts? o actions = [] := nothing
  simp [accepted, observed_concat, refused, before]

/-- Who is told that the task is closed after a wait has had its job run, but not to an answer. -/
theorem closed_of_resume (resumed : o.resume t = some o')
    (told : o'.callers.get? t = some (.returned (.error .closed))) :
    ∃ ticket, o.callers.get? t = some (.executing ticket) ∧
      o.task.end? ticket = some .panicked := by
  unfold resume at resumed
  split at resumed
  · obtain ⟨e, _, rfl⟩ := Option.map_eq_some_iff.1 resumed
    cases e <;> simp [setCaller] at told
  · next ticket waits =>
    obtain ⟨e, ended, rfl⟩ := Option.map_eq_some_iff.1 resumed
    cases e with
    | answered a => simp [setCaller] at told
    | panicked => exact ⟨ticket, waits, ended⟩
  · split at resumed
    · obtain rfl := Option.some.inj resumed
      simp [setCaller] at told
    · cases resumed
  · cases resumed

theorem callers_setCaller (o : Coordination T σ ρ) (h : u ≠ t) (c : Caller ρ) :
    (o.setCaller u c).callers.get? t = o.callers.get? t :=
  Table.get?_insert_of_ne o.callers h c

theorem callers_call (o : Coordination T σ ρ) (h : u ≠ t) (c : Call σ ρ) :
    (o.call u c).callers.get? t = o.callers.get? t := by
  cases accepting : o.task.accepting <;> cases c <;>
    simp [call, Task.submit, accepting, callers_setCaller _ h]

theorem callers_resume (resumed : o.resume u = some o') (h : u ≠ t) :
    o'.callers.get? t = o.callers.get? t := by
  unfold resume at resumed
  split at resumed
  · obtain ⟨e, _, rfl⟩ := Option.map_eq_some_iff.1 resumed
    cases e <;> exact callers_setCaller o h _
  · obtain ⟨e, _, rfl⟩ := Option.map_eq_some_iff.1 resumed
    cases e <;> exact callers_setCaller o h _
  · split at resumed
    · obtain rfl := Option.some.inj resumed
      exact callers_setCaller o h _
    · cases resumed
  · cases resumed

/-- A thread that waits for the task to stop waits until it has. -/
theorem joining_act (waits : o.callers.get? t = some .joining) {a : Action T σ ρ}
    (silent : ∀ c, a ≠ .call t c) :
    (o.act a).callers.get? t = some .joining ∨ o.task.hasStopped = true := by
  cases a with
  | tick => exact Or.inl waits
  | call u c =>
    have hu : u ≠ t := by
      rintro rfl
      exact silent c rfl
    exact Or.inl ((callers_call o hu c).trans waits)
  | resume u =>
    cases resumed : o.resume u with
    | none => exact Or.inl (by simpa [act, resumed] using waits)
    | some o' =>
      by_cases hu : u = t
      · subst hu
        by_cases stopped : o.task.hasStopped = true
        · exact Or.inr stopped
        · simp [resume, waits, stopped] at resumed
      · refine Or.inl ?_
        simpa [act, resumed] using (callers_resume resumed hu).trans waits

theorem joining_run (waits : o.callers.get? t = some .joining) (later : List (Action T σ ρ))
    (silent : ∀ c, Action.call t c ∉ later) :
    (o.run later).callers.get? t = some .joining ∨ (o.run later).task.hasStopped = true := by
  induction later using List.reverseRecOn with
  | nil => exact Or.inl waits
  | append_singleton actions a ih =>
    have turn := turn_of_act (o.run actions) a
    rw [run_concat]
    rcases ih fun c h => silent c (List.mem_append_left _ h) with still | stopped
    · refine (joining_act still ?_).imp_right fun stopped => Task.stopped_turn stopped turn
      rintro c rfl
      exact silent c (by simp)
    · exact Or.inr (Task.stopped_turn stopped turn)

/-- The states of a run that does not end. -/
def after (o : Coordination T σ ρ) (turns : Nat → Action T σ ρ) : Nat → Coordination T σ ρ
  | 0 => o
  | n + 1 => (o.after turns n).act (turns n)

/-- The coordination thread gets its turn again and again. -/
def Ticking (turns : Nat → Action T σ ρ) : Prop := ∀ n, ∃ k, n ≤ k ∧ turns k = .tick

theorem after_eq_run (o : Coordination T σ ρ) (turns : Nat → Action T σ ρ) (n : Nat) :
    o.after turns n = o.run ((List.range n).map turns) := by
  induction n with
  | zero => rfl
  | succ n ih => rw [List.range_succ, List.map_append, List.map_singleton, run_concat, ← ih, after]

variable {turns : Nat → Action T σ ρ} {n : Nat}

/-- What other threads do is done behind the jobs that are there. -/
theorem queue_act {a : Action T σ ρ} (outside : a ≠ .tick) :
    (o.act a).task.current = o.task.current ∧ (o.act a).task.ended = o.task.ended ∧
      o.task.queue <+: (o.act a).task.queue := by
  have behind : ∀ job, o.task.queue <+: (o.task.submit job).2.queue := by
    intro job
    unfold Task.submit
    split
    · exact List.prefix_append _ _
    · exact List.prefix_refl _
  cases a with
  | tick => exact absurd rfl outside
  | resume t =>
    cases resumed : o.resume t with
    | none => simp [act, resumed]
    | some o' => simp [act, resumed, task_resume resumed]
  | call t c =>
    simp only [act, task_call]
    cases c.job? with
    | none => exact ⟨rfl, rfl, List.prefix_refl _⟩
    | some job => exact ⟨o.task.current_submit job, o.task.ended_submit job, behind job⟩

theorem queue_after {k : Nat} (later : n ≤ k) (outside : ∀ j, n ≤ j → j < k → turns j ≠ .tick) :
    (o.after turns k).task.current = (o.after turns n).task.current ∧
      (o.after turns k).task.ended = (o.after turns n).task.ended ∧
      (o.after turns n).task.queue <+: (o.after turns k).task.queue := by
  induction k, later using Nat.le_induction with
  | base => exact ⟨rfl, rfl, List.prefix_refl _⟩
  | succ k later ih =>
    obtain ⟨current, ended, queue⟩ := ih fun j hj hlt => outside j hj (Nat.lt_succ_of_lt hlt)
    obtain ⟨current', ended', queue'⟩ :=
      queue_act (o := o.after turns k) (outside k later (Nat.lt_succ_self k))
    exact ⟨current'.trans current, ended'.trans ended, queue.trans queue'⟩

/-- The next turn of the coordination thread finds the current job and the head of the queue. -/
theorem next_tick (ticking : Ticking turns) (o : Coordination T σ ρ) (n : Nat) :
    ∃ k, n ≤ k ∧ turns k = .tick ∧
      (o.after turns k).task.current = (o.after turns n).task.current ∧
      (o.after turns k).task.ended = (o.after turns n).task.ended ∧
      (o.after turns n).task.queue <+: (o.after turns k).task.queue := by
  classical
  have comes := ticking n
  obtain ⟨later, tick⟩ := Nat.find_spec comes
  refine ⟨Nat.find comes, later, tick, queue_after later fun j hj hlt hj' => ?_⟩
  exact Nat.find_min comes hlt ⟨hj, hj'⟩

/-- The current job ends. -/
theorem current_ends (ticking : Ticking turns) {ticket : Nat} {job : Job σ ρ}
    (running : (o.after turns n).task.current = some (ticket, job)) :
    ∃ m, n ≤ m ∧ (o.after turns n).task.ended.length < (o.after turns m).task.ended.length := by
  -- The next turn ends the job or leaves one of its remainders, for which the induction speaks.
  have last {n : Nat} {job : Job σ ρ} {e : JobEnd ρ} (ends : job.end? = some e)
      (running : (o.after turns n).task.current = some (ticket, job)) :
      ∃ m, n ≤ m ∧
        (o.after turns n).task.ended.length < (o.after turns m).task.ended.length := by
    obtain ⟨k, later, tick, current, ended, _⟩ := next_tick ticking o n
    refine ⟨k + 1, Nat.le_succ_of_le later, ?_⟩
    rw [after, tick, ← ended]
    cases job <;>
      simp [Job.end?, act, Task.tick, current, running, Task.act, Task.finish] at ends ⊢
  have goes_on {n : Nat} {job : Job σ ρ}
      (running : (o.after turns n).task.current = some (ticket, job))
      (acts : ∀ k : Task σ ρ, ∃ job', (k.act ticket job).current = some (ticket, job') ∧
        (k.act ticket job).ended = k.ended ∧
        ∀ n, (o.after turns n).task.current = some (ticket, job') → ∃ m, n ≤ m ∧
          (o.after turns n).task.ended.length < (o.after turns m).task.ended.length) :
      ∃ m, n ≤ m ∧
        (o.after turns n).task.ended.length < (o.after turns m).task.ended.length := by
    obtain ⟨k, later, tick, current, ended, _⟩ := next_tick ticking o n
    obtain ⟨job', goes, same, ih⟩ := acts (o.after turns k).task
    have acted : (o.after turns (k + 1)).task = (o.after turns k).task.act ticket job := by
      simp [after, tick, act, Task.tick, current, running]
    obtain ⟨m, hm, grows⟩ := ih (k + 1) (acted ▸ goes)
    refine ⟨m, (Nat.le_succ_of_le later).trans hm, ?_⟩
    rwa [acted, same, ended] at grows
  induction job generalizing n with
  | done answer => exact last rfl running
  | panic => exact last rfl running
  | work change next ih => exact goes_on running fun k => ⟨_, rfl, rfl, fun _ => ih _⟩
  | submit job next _ ih =>
    exact goes_on running fun k => ⟨_, rfl, k.ended_submit job, fun _ => ih _⟩
  | execute job next _ ih => exact goes_on running fun k => ⟨_, rfl, rfl, fun _ => ih _⟩
  | close next ih => exact goes_on running fun k => ⟨_, rfl, rfl, fun _ => ih⟩
  | isRunning next ih => exact goes_on running fun k => ⟨_, rfl, rfl, fun _ => ih _⟩

/-- While there is something to do, a further job ends. -/
theorem another_ends (ticking : Ticking turns)
    (pending : (o.after turns n).task.current ≠ none ∨ (o.after turns n).task.queue ≠ []) :
    ∃ m, n ≤ m ∧ (o.after turns n).task.ended.length < (o.after turns m).task.ended.length := by
  cases running : (o.after turns n).task.current with
  | some current => exact current_ends ticking running
  | none =>
    obtain ⟨k, later, tick, current, ended, queue⟩ := next_tick ticking o n
    have waiting : (o.after turns k).task.queue ≠ [] := by
      intro empty
      rw [empty, List.prefix_nil] at queue
      exact pending.elim (fun h => h running) fun h => h queue
    obtain ⟨first, rest, queued⟩ := List.exists_cons_of_ne_nil waiting
    have begins : (o.after turns (k + 1)).task =
        { (o.after turns k).task with current := some first, queue := rest } := by
      simp [after, tick, act, Task.tick, current, running, queued]
    obtain ⟨m, hm, grows⟩ := current_ends (n := k + 1) ticking (by rw [begins])
    refine ⟨m, (Nat.le_succ_of_le later).trans hm, ?_⟩
    rwa [begins, ended] at grows

/-- All jobs that were accepted come to their ends. -/
theorem accepted_end (ticking : Ticking turns) (s₀ : σ) (actions : List (Action T σ ρ))
    (count : Nat) (accepted : count ≤ ((opened T s₀).run actions).task.accepted) :
    ∃ n, count ≤ (((opened T s₀).run actions).after turns n).task.ended.length := by
  let o := (opened T s₀).run actions
  have serial : ∀ n, ∃ accepted begun activity,
      (o.after turns n).task.Serial accepted begun activity := by
    intro n
    have whole : o.after turns n = (opened T s₀).run (actions ++ (List.range n).map turns) := by
      rw [after_eq_run, run_append]
    rw [whole]
    exact ⟨_, _, _, serial_run s₀ _⟩
  have grows : ∀ n, o.task.accepted ≤ (o.after turns n).task.accepted := by
    intro n
    induction n with
    | zero => exact Nat.le_refl _
    | succ n ih => exact ih.trans (Task.accepted_turn (turn_of_act (o.after turns n) (turns n)))
  induction count with
  | zero => exact ⟨0, Nat.zero_le _⟩
  | succ count ih =>
    obtain ⟨n, enough⟩ := ih (Nat.le_of_succ_le accepted)
    by_cases more : count + 1 ≤ (o.after turns n).task.ended.length
    · exact ⟨n, more⟩
    · obtain ⟨_, _, _, serial⟩ := serial n
      have total := serial.length_accepted
      have pending : (o.after turns n).task.current ≠ none ∨ (o.after turns n).task.queue ≠ [] := by
        by_contra nothing
        obtain ⟨idle, empty⟩ := not_or.1 nothing
        rw [not_not.1 idle, not_not.1 empty] at total
        have := accepted.trans (grows n)
        simp only [Option.toList_none, List.length_nil] at total
        omega
      obtain ⟨m, _, further⟩ := another_ends ticking pending
      exact ⟨m, Nat.lt_of_le_of_lt enough further⟩

/-- Once the task is closed, the coordination thread comes to stop. -/
theorem closed_stops (ticking : Ticking turns) (s₀ : σ) (actions : List (Action T σ ρ))
    (closed : ((opened T s₀).run actions).task.accepting = false) :
    ∃ n, (((opened T s₀).run actions).after turns n).task.hasStopped = true := by
  obtain ⟨n, enough⟩ := accepted_end ticking s₀ actions _ (Nat.le_refl _)
  refine ⟨n, ?_⟩
  rw [after_eq_run] at enough ⊢
  obtain ⟨still, count, _⟩ := closed_run closed ((List.range n).map turns)
  have serial := serial_run s₀ (actions ++ (List.range n).map turns)
  rw [run_append] at serial
  have total := serial.length_accepted
  rw [count] at total
  refine Task.hasStopped_iff.2 ⟨still, ?_, ?_⟩
  · exact List.length_eq_zero_iff.1 (by omega)
  · exact Option.toList_eq_nil_iff.1 (List.length_eq_zero_iff.1 (by omega))

/-- Jobs run exactly once, in the order in which they were accepted. At every point of a run those
that have begun are the first ones, one at a time, and the state is what they make of it one after
another. An open task accepts every job; a closed one refuses every job for good. An `execute` that
was accepted also ends as if the task were closed when its job has panicked, but the job has run. A
job that would wait for another is refused with nothing queued. A shutdown from outside that closed
the task returns when all accepted jobs have run, and they all run in the end. -/
theorem jobs_run_in_order (s₀ : σ) (actions : List (Action T σ ρ)) :
    let o₀ : Coordination T σ ρ := opened T s₀
    let o := o₀.run actions
    o.task.Serial (o₀.accepted actions) (o₀.begun actions) (o₀.activity actions) ∧
    o.task.Sequential s₀ (o₀.begun actions) ∧
    (o.task.accepting = true → o.Accepts) ∧
    (o.task.accepting = false → ∀ later,
      (o.run later).Refuses ∧ o₀.accepted (actions ++ later) = o₀.accepted actions) ∧
    (∀ t o', o.resume t = some o' → o'.callers.get? t = some (.returned (.error .closed)) →
      ∃ ticket, o.callers.get? t = some (.executing ticket) ∧
        o.task.end? ticket = some .panicked) ∧
    (∀ ticket job next, o.task.current = some (ticket, .execute job next) →
      o.act .tick = { o with task :=
        { o.task with current := some (ticket, next (.error waitsOnItself)) } }) ∧
    (∀ t later result, o.task.accepting = true → (∀ c, Action.call t c ∉ later) →
      let o' := (o.call t .shutdown).run later
      o'.callers.get? t = some (.returned result) →
        o'.task.ended.map Prod.fst = List.range o'.task.accepted) ∧
    ∀ turns, Ticking turns →
      (∃ n, ∀ ticket < o.task.accepted, ∃ e, (ticket, e) ∈ (o.after turns n).task.ended) ∧
      (o.task.accepting = false → ∃ n, (o.after turns n).task.hasStopped = true) := by
  intro o₀ o
  refine ⟨serial_run s₀ actions, sequential_run s₀ actions, accepts_of_open, ?_,
    fun t o' => closed_of_resume, ?_, ?_, ?_⟩
  · intro closed later
    obtain ⟨still, _, nothing⟩ := closed_run closed later
    refine ⟨refuses_of_closed still, ?_⟩
    rw [accepted, observed_append]
    exact (congrArg (o₀.accepted actions ++ ·) nothing).trans (List.append_nil _)
  · intro ticket job next running
    simp [act, Task.tick, running, Task.act]
  · intro t later result accepting silent o' returned
    have waits : (o.call t .shutdown).callers.get? t = some .joining := by
      simp [call, accepting, setCaller]
    have serial := serial_run s₀ (actions ++ .call t .shutdown :: later)
    rw [run_append] at serial
    rcases joining_run waits later silent with still | stopped
    · exact absurd (returned.symm.trans still) (by simp)
    · exact serial.ended_of_stopped stopped
  · intro turns ticking
    refine ⟨?_, closed_stops ticking s₀ actions⟩
    obtain ⟨n, enough⟩ := accepted_end ticking s₀ actions _ (Nat.le_refl _)
    refine ⟨n, fun ticket accepted => ?_⟩
    have serial := serial_run s₀ (actions ++ (List.range n).map turns)
    rw [run_append, ← after_eq_run] at serial
    have among : ticket ∈ (o.after turns n).task.ended.map Prod.fst := by
      rw [serial.ended_eq]
      exact List.mem_range.2 (Nat.lt_of_lt_of_le accepted enough)
    obtain ⟨⟨_, e⟩, member, rfl⟩ := List.mem_map.1 among
    exact ⟨e, member⟩

def append (n : Nat) : Job (List Nat) Nat := .work (· ++ [n]) fun _ => .done n

/-- Behind a job that submits another one and then panics comes one that another thread waits
for. -/
def crowded : List (Action Nat (List Nat) Nat) :=
  [.call 0 (.submit (.submit (append 3) fun _ => .panic)), .call 1 (.await (append 2)), .tick, .tick]

/-- After the first thread has shut the task down, a third one comes too late. -/
def emptying : List (Action Nat (List Nat) Nat) :=
  .call 2 (.execute (append 4)) :: List.replicate 7 .tick ++ [.resume 1, .resume 0]

theorem crowded_in_order :
    let o : Coordination Nat (List Nat) Nat := (opened Nat []).run crowded
    let o' := (o.call 0 .shutdown).run emptying
    o.task.accepting = true ∧ (∀ c, Action.call 0 c ∉ emptying) ∧
    o'.callers.get? 0 = some (.returned (.ok .accepted)) ∧
    o'.task.ended.map Prod.fst = List.range o'.task.accepted ∧
    o'.task.ended = [(0, .panicked), (1, .answered 2), (2, .answered 3)] ∧
    o'.task.state = [2, 3] ∧ o'.callers.get? 2 = some (.returned (.error .closed)) := by
  have silent : ∀ c, Action.call 0 c ∉ emptying := by
    intro c h
    simp [emptying] at h
  obtain ⟨_, _, _, _, _, _, shutdown, _⟩ := jobs_run_in_order (T := Nat) (ρ := Nat) [] crowded
  have accepting : ((opened Nat []).run crowded).task.accepting = true := rfl
  have returned : ((((opened Nat []).run crowded).call 0 .shutdown).run emptying).callers.get? 0 =
      some (.returned (.ok .accepted)) := rfl
  exact ⟨accepting, silent, returned, shutdown 0 emptying _ accepting silent returned, rfl, rfl,
    rfl⟩

end Coordination
end ClusterDriver
