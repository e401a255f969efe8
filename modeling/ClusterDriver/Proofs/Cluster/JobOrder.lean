import ClusterDriver.Proofs.Cluster.JobHistory
/-!
# Order of jobs

At every point of a run, the jobs that have begun come first among those accepted, in the same
order, all but the last have ended, and no two were at work at once. The state is what they make of
it when they are applied one after another.
-/
namespace ClusterDriver
open Relation

variable {T σ ρ : Type}

/-- What has been accepted, begun and done accounts for the task. -/
structure Task.Serial (accepted begun : List (Nat × Job σ ρ)) (activity : List Nat)
    (k : Task σ ρ) : Prop where
  /-- What has not begun yet is queued. -/
  queued : accepted = begun ++ k.queue
  /-- Every ticket is given once, and in order. -/
  tickets : accepted.map Prod.fst = List.range k.accepted
  /-- Only the current job has begun and not ended. -/
  ended : begun.map Prod.fst = k.ended.map Prod.fst ++ (k.current.map Prod.fst).toList
  /-- A job that has acted is never followed by an action of an earlier one. -/
  alone : activity.Pairwise (· ≤ ·)
  acted : ∀ ticket ∈ activity, ticket ∈ begun.map Prod.fst

namespace Task.Serial
variable {k k' : Task σ ρ} {accepted begun : List (Nat × Job σ ρ)} {activity : List Nat}

theorem sorted (serial : k.Serial accepted begun activity) :
    (begun.map Prod.fst).Pairwise (· < ·) := by
  have whole : (accepted.map Prod.fst).Pairwise (· < ·) :=
    serial.tickets ▸ List.pairwise_lt_range
  rw [serial.queued, List.map_append] at whole
  exact (List.pairwise_append.1 whole).1

/-- A task that differs in nothing that is accounted for. -/
theorem of_same (serial : k.Serial accepted begun activity) (queue : k'.queue = k.queue)
    (count : k'.accepted = k.accepted) (ended : k'.ended = k.ended)
    (current : k'.current.map Prod.fst = k.current.map Prod.fst) :
    k'.Serial accepted begun activity where
  queued := queue ▸ serial.queued
  tickets := count ▸ serial.tickets
  ended := by rw [ended, current, serial.ended]
  alone := serial.alone
  acted := serial.acted

theorem submit (serial : k.Serial accepted begun activity) (job : Job σ ρ) :
    (k.submit job).2.Serial
      (accepted ++ ((k.submit job).1.toOption.map fun ticket => (ticket, job)).toList)
      begun activity := by
  cases accepting : k.accepting with
  | false => simpa [Task.submit, accepting, Except.toOption] using serial
  | true =>
    simp only [Task.submit, accepting, if_true, Except.toOption, Option.map_some,
      Option.toList_some]
    constructor
    · rw [serial.queued, List.append_assoc]
    · simp [serial.tickets, List.range_succ]
    · exact serial.ended
    · exact serial.alone
    · exact serial.acted

theorem begin (serial : k.Serial accepted begun activity) {first : Nat × Job σ ρ}
    {rest : List (Nat × Job σ ρ)} (idle : k.current = none) (queued : k.queue = first :: rest) :
    Task.Serial accepted (begun ++ [first]) activity
      { k with current := some first, queue := rest } where
  queued := by rw [serial.queued, queued, List.append_assoc, List.singleton_append]
  tickets := serial.tickets
  ended := by simp [serial.ended, idle]
  alone := serial.alone
  acted ticket h := by
    rw [List.map_append]
    exact List.mem_append_left _ (serial.acted ticket h)

/-- The current job acts, and goes on to be the current one. -/
theorem act (serial : k.Serial accepted begun activity) {ticket : Nat} {job : Job σ ρ}
    (running : k.current = some (ticket, job)) :
    k.Serial accepted begun (activity ++ [ticket]) where
  queued := serial.queued
  tickets := serial.tickets
  ended := serial.ended
  alone := by
    have ends : begun.map Prod.fst = k.ended.map Prod.fst ++ [ticket] := by
      simpa [running] using serial.ended
    have sorted := serial.sorted
    rw [ends] at sorted
    refine List.pairwise_append.2 ⟨serial.alone, List.pairwise_singleton _ _, ?_⟩
    intro earlier h last hlast
    obtain rfl := List.mem_singleton.1 hlast
    have began := serial.acted earlier h
    rw [ends, List.mem_append, List.mem_singleton] at began
    rcases began with before | rfl
    · exact Nat.le_of_lt ((List.pairwise_append.1 sorted).2.2 earlier before last hlast)
    · exact Nat.le_refl _
  acted earlier h := by
    rcases List.mem_append.1 h with before | last
    · exact serial.acted earlier before
    · rw [serial.ended, running]
      simpa using Or.inr (List.mem_singleton.1 last)

theorem finish (serial : k.Serial accepted begun activity) {ticket : Nat} {job : Job σ ρ}
    (running : k.current = some (ticket, job)) (e : JobEnd ρ) :
    (k.finish ticket e).Serial accepted begun activity where
  queued := serial.queued
  tickets := serial.tickets
  ended := by simpa [Task.finish, running] using serial.ended
  alone := serial.alone
  acted := serial.acted

theorem turn (serial : k.Serial accepted begun activity) {job : Option (Job σ ρ)}
    {first : Option (Nat × Job σ ρ)} {acting : Option Nat} (turn : k.Turn job first acting k') :
    k'.Serial (accepted ++ (job.bind fun job =>
        (k.submit job).1.toOption.map fun ticket => (ticket, job)).toList)
      (begun ++ first.toList) (activity ++ acting.toList) := by
  cases turn <;> simp only [Option.bind_none, Option.bind_some, Option.toList_none,
    Option.toList_some, List.append_nil]
  case pass => exact serial
  case call job => exact serial.submit job
  case shutdown => exact serial.of_same rfl rfl rfl rfl
  case begin idle queued => exact serial.begin idle queued
  case finish running ends => exact (serial.act running).finish running _
  case work running | execute running | close running | isRunning running =>
    exact (serial.act running).of_same rfl rfl rfl (by simp [running])
  case submit ticket job next running =>
    exact ((serial.act running).submit job).of_same rfl rfl rfl (by simp [running])

/-- The tickets of the jobs that have ended are the first ones. -/
theorem ended_eq (serial : k.Serial accepted begun activity) :
    k.ended.map Prod.fst = List.range k.ended.length := by
  have parts : k.ended.map Prod.fst <+: List.range k.accepted := by
    rw [← serial.tickets, serial.queued, List.map_append, serial.ended, List.append_assoc]
    exact List.prefix_append _ _
  have bound : k.ended.length ≤ k.accepted := by simpa using parts.length_le
  rw [List.prefix_iff_eq_take.1 parts, List.take_range, List.length_map, Nat.min_eq_left bound]

theorem length_accepted (serial : k.Serial accepted begun activity) :
    k.accepted = k.ended.length + k.current.toList.length + k.queue.length := by
  have counts := congrArg List.length serial.tickets
  have ended := congrArg List.length serial.ended
  simp only [List.length_map, List.length_range, List.length_append] at counts ended
  rw [← counts, serial.queued, List.length_append, ended]
  cases k.current <;> simp

end Task.Serial

/-- Where a job stands that is on its own with the state: what is left of it, the state, and whether
the queue is open. -/
structure Job.Standing (σ ρ : Type) where
  job : Job σ ρ
  state : σ
  isOpen : Bool

/-- One action of a job. Of all that other threads do, it can only notice that the queue was
closed. -/
inductive Job.Step : Job.Standing σ ρ → Job.Standing σ ρ → Prop
  | work {change next s b} : Step ⟨.work change next, s, b⟩ ⟨next s, change s, b⟩
  | submit {job next s b} : Step ⟨.submit job next, s, b⟩
      ⟨next (if b then .ok () else .error .closed), s, b⟩
  | execute {job next s b} : Step ⟨.execute job next, s, b⟩ ⟨next (.error waitsOnItself), s, b⟩
  | close {next s b} : Step ⟨.close next, s, b⟩ ⟨next, s, false⟩
  | isRunning {next s b} : Step ⟨.isRunning next, s, b⟩ ⟨next b, s, b⟩
  | closed {job s b} : Step ⟨job, s, b⟩ ⟨job, s, false⟩

/-- From `s₀`, with the queue open at first, the jobs are run to their ends one after another. -/
inductive AppliedInTurn (s₀ : σ) :
    List (Nat × Job σ ρ) → List (Nat × JobEnd ρ) → σ → Bool → Prop
  | none : AppliedInTurn s₀ [] [] s₀ true
  | closed {jobs ends s b} (applied : AppliedInTurn s₀ jobs ends s b) :
    AppliedInTurn s₀ jobs ends s false
  | next {jobs ends s b ticket job last s' b' e} (applied : AppliedInTurn s₀ jobs ends s b)
    (steps : ReflTransGen Job.Step ⟨job, s, b⟩ ⟨last, s', b'⟩) (ended : last.end? = some e) :
    AppliedInTurn s₀ (jobs ++ [(ticket, job)]) (ends ++ [(ticket, e)]) s' b'

namespace Task
variable {k k' : Task σ ρ} {s₀ : σ} {begun : List (Nat × Job σ ρ)}

/-- The state is what the ended jobs and then the current one, as far as it has come, made of
`s₀`. -/
def Sequential (s₀ : σ) (begun : List (Nat × Job σ ρ)) (k : Task σ ρ) : Prop :=
  match k.current with
  | none => AppliedInTurn s₀ begun k.ended k.state k.accepting
  | some (ticket, job) => ∃ before whole s b, begun = before ++ [(ticket, whole)] ∧
      AppliedInTurn s₀ before k.ended s b ∧
      ReflTransGen Job.Step ⟨whole, s, b⟩ ⟨job, k.state, k.accepting⟩

theorem Sequential.idle (sequential : k.Sequential s₀ begun) (idle : k.current = none) :
    AppliedInTurn s₀ begun k.ended k.state k.accepting := by
  simpa only [Sequential, idle] using sequential

/-- The current job takes one step. -/
theorem Sequential.step (sequential : k.Sequential s₀ begun) {ticket : Nat} {job job' : Job σ ρ}
    (running : k.current = some (ticket, job)) (ended : k'.ended = k.ended)
    (current : k'.current = some (ticket, job'))
    (step : Job.Step ⟨job, k.state, k.accepting⟩ ⟨job', k'.state, k'.accepting⟩) :
    k'.Sequential s₀ begun := by
  simp only [Sequential, running] at sequential
  obtain ⟨before, whole, s, b, split, applied, steps⟩ := sequential
  simp only [Sequential, current]
  exact ⟨before, whole, s, b, split, ended ▸ applied, steps.tail step⟩

theorem Sequential.finish (sequential : k.Sequential s₀ begun) {ticket : Nat} {job : Job σ ρ}
    {e : JobEnd ρ} (running : k.current = some (ticket, job)) (ends : job.end? = some e) :
    (k.finish ticket e).Sequential s₀ begun := by
  simp only [Sequential, running] at sequential
  obtain ⟨before, whole, s, b, rfl, applied, steps⟩ := sequential
  exact applied.next steps ends

theorem Sequential.begin (sequential : k.Sequential s₀ begun) {first : Nat × Job σ ρ}
    {rest : List (Nat × Job σ ρ)} (idle : k.current = none) :
    Task.Sequential s₀ (begun ++ [first]) { k with current := some first, queue := rest } :=
  ⟨begun, first.2, k.state, k.accepting, rfl, sequential.idle idle, .refl⟩

theorem Sequential.close (sequential : k.Sequential s₀ begun) : k.close.Sequential s₀ begun := by
  cases running : k.current with
  | none =>
    have applied := (sequential.idle running).closed
    simpa only [Sequential, Task.close, running] using applied
  | some current => exact sequential.step running rfl running .closed

theorem Sequential.of_same (sequential : k.Sequential s₀ begun) (current : k'.current = k.current)
    (ended : k'.ended = k.ended) (state : k'.state = k.state)
    (accepting : k'.accepting = k.accepting) : k'.Sequential s₀ begun := by
  simpa only [Sequential, current, ended, state, accepting] using sequential

theorem Sequential.turn (sequential : k.Sequential s₀ begun) {job : Option (Job σ ρ)}
    {first : Option (Nat × Job σ ρ)} {acting : Option Nat} (turn : k.Turn job first acting k') :
    k'.Sequential s₀ (begun ++ first.toList) := by
  cases turn <;> simp only [Option.toList_none, Option.toList_some, List.append_nil]
  case pass => exact sequential
  case call job =>
    exact sequential.of_same (k.current_submit job) (k.ended_submit job) (k.state_submit job)
      (k.accepting_submit job)
  case shutdown => exact sequential.close
  case begin idle queued => exact sequential.begin idle
  case finish running ends => exact sequential.finish running ends
  case work running => exact sequential.step running rfl rfl .work
  case submit ticket job next running =>
    refine sequential.step running (k.ended_submit job) rfl ?_
    simp only [Task.answer_submit, Task.state_submit, Task.accepting_submit]
    exact .submit
  case execute running => exact sequential.step running rfl rfl .execute
  case close running => exact sequential.step running rfl rfl .close
  case isRunning running => exact sequential.step running rfl rfl .isRunning

end Task

namespace Coordination
variable [DecidableEq T]

/-- A task that nobody has called yet. -/
def opened (T : Type) {ρ : Type} (s₀ : σ) : Coordination T σ ρ := { task := { state := s₀ } }

theorem serial_run (s₀ : σ) (actions : List (Action T σ ρ)) :
    ((opened T s₀).run actions).task.Serial ((opened T s₀).accepted actions)
      ((opened T s₀).begun actions) ((opened T s₀).activity actions) := by
  refine run_induction (opened T s₀) (P := fun actions => ((opened T s₀).run actions).task.Serial
    ((opened T s₀).accepted actions) ((opened T s₀).begun actions)
    ((opened T s₀).activity actions)) ?_ ?_ actions
  · exact ⟨rfl, rfl, rfl, .nil, fun _ h => absurd h List.not_mem_nil⟩
  · intro actions a serial turn
    simp only [accepted, begun, activity, observed_concat]
    exact serial.turn turn

theorem sequential_run (s₀ : σ) (actions : List (Action T σ ρ)) :
    ((opened T s₀).run actions).task.Sequential s₀ ((opened T s₀).begun actions) := by
  refine run_induction (opened T s₀)
    (P := fun actions => ((opened T s₀).run actions).task.Sequential s₀
      ((opened T s₀).begun actions)) ?_ ?_ actions
  · exact .none
  · intro actions a sequential turn
    simp only [begun, observed_concat]
    exact sequential.turn turn

end Coordination
end ClusterDriver
