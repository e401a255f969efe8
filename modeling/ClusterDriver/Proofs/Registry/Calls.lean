import ClusterDriver.Proofs.Registry.Deadlock
/-!
# Calls

The requests that a thread has under way, and how they come to an end. Where detection is on and
every thread gets its turns, each of them does: with an answer, or with the panic of its builder.
-/
namespace ClusterDriver

/-- The requests under way, the innermost first. -/
def Thread.calls {T C σ α : Type} : Thread T C σ α → List (Request T C σ α)
  | .run requests _ => requests
  | .request _ r outer => r :: outer
  | .done _ => []

namespace Machine
variable {T C σ α : Type} [DecidableEq T] [DecidableEq C] {m m' m₀ : Machine T C σ α} {t : T}

omit [DecidableEq C] in
/-- A thread without requests has entered nothing and is about to do nothing. -/
theorem posture_of_idle
    (idle : ∀ thread, m.threads.get? t = some thread → thread.calls = []) :
    m.posture t = ⟨[], .none⟩ := by
  cases found : m.threads.get? t with
  | none => simp [Machine.posture, found]
  | some thread =>
    rw [posture_of_get? found]
    have calls := idle thread found
    cases thread with
    | run requests program =>
      obtain rfl : requests = [] := calls
      rfl
    | request stage r outer => cases calls
    | done outcome => rfl

/-- What an action of `t` does to its requests under way. -/
inductive CallTurn (m : Machine T C σ α) (t : T) (thread : Thread T C σ α) :
    Thread T C σ α → Prop
  | keep {new} (same : new.calls = thread.calls) : CallTurn m t thread new
  | ask {requests cell next} (here : thread = .run requests (.get cell next)) :
    CallTurn m t thread (.request .check ⟨cell, next⟩ requests)
  | answer {r outer result} (here : thread.calls = r :: outer)
      (answered : m.answer? t = some (r.cell, result)) :
    CallTurn m t thread (.run outer (r.next result))
  | unwind {r outer} (here : thread = .request (.published .panicked) r outer) :
    CallTurn m t thread (.run outer .panic)

omit [DecidableEq T] [DecidableEq C] in
theorem calls_ended (m : Machine T C σ α) (outcome : Outcome Failure α)
    (requests : List (Request T C σ α)) : (m.ended outcome requests).calls = requests := by
  cases requests <;> rfl

theorem callTurn_of_turn {thread new : Thread T C σ α} (found : m.threads.get? t = some thread)
    (turn : Turn m t thread m') (hnew : m'.threads.get? t = some new) :
    CallTurn m t thread new := by
  cases turn with
  | conclude ends =>
    obtain rfl := get?_setThread_self hnew
    exact .keep (calls_ended m _ _)
  | ask =>
    obtain rfl := get?_setThread_self hnew
    exact .ask rfl
  | look | replace | stack | update | await | approach | wait | serve | claim | clear | enter
  | publish =>
    obtain rfl := get?_setThread_self hnew
    exact .keep rfl
  | reuse complete =>
    obtain rfl := get?_setThread_self hnew
    exact .answer rfl (by simp [answer?, found, complete])
  | refuse refused =>
    obtain rfl := get?_setThread_self hnew
    exact .answer rfl (by simp [answer?, found, refused])
  | release =>
    obtain rfl := get?_setThread_self hnew
    exact .answer rfl (by simp [answer?, found])
  | leave =>
    obtain rfl := get?_setThread_self hnew
    exact .answer rfl (by simp [answer?, found])
  | unwind =>
    obtain rfl := get?_setThread_self hnew
    exact .unwind rfl

/-- `t` is inside the innermost of these requests, perhaps inside further ones. -/
def Inside (m : Machine T C σ α) (t : T) (requests : List (Request T C σ α)) : Prop :=
  ∃ thread, m.threads.get? t = some thread ∧ requests <:+ thread.calls

/-- An action of `t` ends its request `r`, and `t` goes on with the answer or with a panic. -/
def Returns (m m' : Machine T C σ α) (t : T) (r : Request T C σ α)
    (outer : List (Request T C σ α)) : Prop :=
  (∃ result, m.answer? t = some (r.cell, result) ∧
    m'.threads.get? t = some (.run outer (r.next result))) ∨
  m.threads.get? t = some (.request (.published .panicked) r outer) ∧
    m'.threads.get? t = some (.run outer .panic)

/-- A request comes to an end by an answer or by a panic. -/
theorem returns_of_turn {thread : Thread T C σ α} (found : m.threads.get? t = some thread)
    (turn : Turn m t thread m') {u : T} {r : Request T C σ α} {outer : List (Request T C σ α)}
    (inside : m.Inside u (r :: outer)) (left : ¬ m'.Inside u (r :: outer)) :
    m.Returns m' u r outer := by
  obtain ⟨old, hold, suffix⟩ := inside
  by_cases hu : u = t
  · subst hu
    obtain rfl := Option.some.inj (hold.symm.trans found)
    obtain ⟨new, hnew⟩ := present_of_turn turn
    have gone : ¬ (r :: outer) <:+ new.calls := fun h => left ⟨new, hnew, h⟩
    cases callTurn_of_turn hold turn hnew with
    | keep same => exact absurd (same ▸ suffix) gone
    | ask here =>
      subst here
      exact absurd (suffix.trans (List.suffix_cons _ _)) gone
    | answer here answered =>
      rw [here] at suffix
      rcases List.suffix_cons_iff.1 suffix with heq | inner
      · cases heq
        exact Or.inl ⟨_, answered, hnew⟩
      · exact absurd inner gone
    | unwind here =>
      subst here
      rcases List.suffix_cons_iff.1 suffix with heq | inner
      · cases heq
        exact Or.inr ⟨hold, hnew⟩
      · exact absurd inner gone
  · exact absurd ⟨old, (threads_turn turn hu).trans hold, suffix⟩ left

theorem returns_of_step {u : T} {r : Request T C σ α} {outer : List (Request T C σ α)}
    (inside : m.Inside t (r :: outer)) (left : ¬ ((m.step u).getD m).Inside t (r :: outer)) :
    m.Returns ((m.step u).getD m) t r outer := by
  cases hstep : m.step u with
  | none =>
    rw [hstep] at left
    exact absurd inside left
  | some m' =>
    rw [hstep] at left
    obtain ⟨thread, found, turn⟩ := turn_of_step hstep
    exact returns_of_turn found turn inside left

theorem runSchedule_firstTurns_succ (m : Machine T C σ α) (turns : Nat → T) (n : Nat) :
    m.runSchedule (firstTurns turns (n + 1)) =
      ((m.runSchedule (firstTurns turns n)).step (turns n)).getD
        (m.runSchedule (firstTurns turns n)) := by
  rw [firstTurns_add, runSchedule_append]
  simp [firstTurns, runSchedule]

theorem returns_of_turns {turns : Nat → T} {r : Request T C σ α} {outer : List (Request T C σ α)}
    (inside : m.Inside t (r :: outer)) {n : Nat}
    (left : ¬ (m.runSchedule (firstTurns turns n)).Inside t (r :: outer)) :
    ∃ k, (m.runSchedule (firstTurns turns k)).Returns (m.runSchedule (firstTurns turns (k + 1)))
      t r outer := by
  induction n with
  | zero => exact absurd inside left
  | succ n ih =>
    by_cases still : (m.runSchedule (firstTurns turns n)).Inside t (r :: outer)
    · refine ⟨n, ?_⟩
      rw [runSchedule_firstTurns_succ] at left ⊢
      exact returns_of_step still left
    · exact ih still

/-- Where detection is on and every thread gets its turns, every request comes to an end. -/
theorem request_returns [Finite C] (fresh : m₀.Fresh) (enabled : m₀.detector.isEnabled = true)
    (ungated : m₀.Ungated) (schedule : List T) (turns : Nat → T)
    (fair : (m₀.runSchedule schedule).FairTurns turns) {r : Request T C σ α}
    {outer : List (Request T C σ α)} (inside : (m₀.runSchedule schedule).Inside t (r :: outer)) :
    ∃ n, (m₀.runSchedule (schedule ++ firstTurns turns n)).Returns
      (m₀.runSchedule (schedule ++ firstTurns turns (n + 1))) t r outer := by
  obtain ⟨last, stuck⟩ := fair_turns_end _ turns fair
  simp only [runSchedule_append] at *
  refine returns_of_turns inside (n := last) ?_
  rintro ⟨thread, found, suffix⟩
  rw [← runSchedule_append] at stuck found
  obtain ⟨outcome, rfl⟩ := (done_of_stuck fresh enabled ungated stuck).1 t thread found
  simp [Thread.calls] at suffix

end Machine
end ClusterDriver
