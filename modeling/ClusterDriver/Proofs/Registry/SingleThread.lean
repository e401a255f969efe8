import ClusterDriver.Proofs.Registry.Bookkeeping
import ClusterDriver.Proofs.Registry.Histories
import ClusterDriver.Proofs.Registry.Refusals
/-!
# One thread

While only one thread is inside requests, it is never blocked, whatever the builders ask for: a cell
that is being built is built by this thread, and detection refuses the wait of a thread for itself.
So every request that it makes comes to an end. Builders may ask for their own cells and for each
other in cycles, go on after errors, and panic; that each of them takes finitely many actions of its
own is in the type of programs. How many builders are run, and how many at once, is bounded by the
number of cells, in whatever interleaving.
-/
namespace ClusterDriver.Machine
variable {T C σ α : Type} [DecidableEq T] [DecidableEq C] {m m' m₀ : Machine T C σ α} {t u : T}
  {c d : C} {schedule : List T}

/-- No other thread has a request under way. -/
def Alone (m : Machine T C σ α) (t : T) : Prop :=
  ∀ u thread, u ≠ t → m.threads.get? u = some thread → thread.calls = []

theorem Alone.turn (alone : m.Alone t) {thread : Thread T C σ α} (turn : Turn m t thread m') :
    m'.Alone t :=
  fun u other hu found => alone u other hu (threads_turn turn hu ▸ found)

theorem Alone.runSchedule (alone : m.Alone t) (n : Nat) :
    (m.runSchedule (List.replicate n t)).Alone t := by
  induction n generalizing m with
  | zero => exact alone
  | succ n ih =>
    have first : m.runSchedule (List.replicate (n + 1) t) =
        ((m.step t).getD m).runSchedule (List.replicate n t) := rfl
    rw [first]
    cases hstep : m.step t with
    | none => exact ih alone
    | some m' =>
      obtain ⟨thread, _, turn⟩ := turn_of_step hstep
      exact ih (alone.turn turn)

omit [DecidableEq C] in
/-- A thread that does anything about a cell is inside a request. -/
theorem Alone.eq_of_busy (alone : m.Alone t) (busy : m.posture u ≠ ⟨[], .none⟩) : u = t := by
  by_contra hu
  exact busy (posture_of_idle fun thread found => alone u thread hu found)

/-- The builder of a cell that the thread waits for would be the thread itself. -/
theorem Alone.not_blocked (alone : (m₀.runSchedule schedule).Alone t) (fresh : m₀.Fresh)
    (enabled : m₀.detector.isEnabled = true) : ¬ (m₀.runSchedule schedule).BlockedOn u d := by
  intro blocked
  obtain ⟨cells, waiting⟩ := blocked.posture
  obtain rfl : u = t := alone.eq_of_busy (by simp [waiting])
  obtain ⟨_, _, _, _, building⟩ := id blocked
  obtain ⟨v, mover, held⟩ := mover_of_building fresh schedule building
  obtain rfl : v = u := alone.eq_of_busy fun idle => by
    simp [idle, Posture.building, Posture.held] at held
  have waits : m₀.WaitsFor schedule v v := ⟨d, blocked, (mover v).2 rfl⟩
  exact not_ring fresh enabled {v} (Set.singleton_nonempty v) fun w hw =>
    ⟨v, rfl, by rwa [Set.mem_singleton_iff.1 hw]⟩

/-- By actions of `t` alone, none of which is passed, its request `r` comes to an end. -/
def ReturnsAlone (m : Machine T C σ α) (t : T) (r : Request T C σ α)
    (outer : List (Request T C σ α)) : Prop :=
  ∃ n, (∀ k ≤ n, ((m.runSchedule (List.replicate k t)).step t).isSome) ∧
    (m.runSchedule (List.replicate n t)).Returns (m.runSchedule (List.replicate (n + 1) t)) t r
      outer

theorem runSchedule_replicate_succ (hstep : m.step t = some m') (n : Nat) :
    m.runSchedule (List.replicate (n + 1) t) = m'.runSchedule (List.replicate n t) := by
  simp [List.replicate_succ, Machine.runSchedule, hstep]

theorem ReturnsAlone.of_step {r : Request T C σ α} {outer : List (Request T C σ α)}
    (hstep : m.step t = some m') (later : m'.ReturnsAlone t r outer) :
    m.ReturnsAlone t r outer := by
  obtain ⟨n, acts, returns⟩ := later
  have first := runSchedule_replicate_succ hstep
  refine ⟨n + 1, fun k hk => ?_, ?_⟩
  · cases k with
    | zero => exact Option.isSome_of_eq_some hstep
    | succ k =>
      rw [first]
      exact acts k (Nat.le_of_succ_le_succ hk)
  · rw [first, first]
    exact returns

/-- A thread that is never blocked leaves its requests, since no thread acts for ever. -/
theorem returnsAlone_of_inside [Finite C] (ungated : m.Ungated)
    (free : ∀ n d, ¬ (m.runSchedule (List.replicate n t)).BlockedOn t d)
    {r : Request T C σ α} {outer : List (Request T C σ α)} (inside : m.Inside t (r :: outer)) :
    m.ReturnsAlone t r outer := by
  have ends := (step_wellFounded (T := T) (C := C) (σ := σ) (α := α)).apply m
  induction ends with | intro m _ ih
  obtain ⟨thread, found, suffix⟩ := id inside
  have running : ∀ outcome, thread ≠ .done outcome := by
    rintro outcome rfl
    simp [Thread.calls] at suffix
  have acts := step_isSome ungated found running (free 0)
  obtain ⟨m', hstep⟩ := Option.isSome_iff_exists.1 acts
  obtain ⟨_, found', turn⟩ := turn_of_step hstep
  have first := runSchedule_replicate_succ hstep
  by_cases still : m'.Inside t (r :: outer)
  · refine .of_step hstep (ih m' ⟨t, hstep⟩ (ungated.turn found' turn) (fun n => ?_) still)
    rw [← first]
    exact free (n + 1)
  · refine ⟨0, fun k hk => ?_, ?_⟩
    · obtain rfl := Nat.le_zero.1 hk
      exact acts
    · rw [first]
      exact returns_of_turn found' turn inside still

/-- A cell is entered once, so no more builders are at work in a thread than there are cells. -/
theorem length_frames_le [Fintype C] (fresh : m₀.Fresh) (schedule : List T)
    {thread : Thread T C σ α} (found : (m₀.runSchedule schedule).threads.get? t = some thread) :
    thread.frames.length ≤ Fintype.card C := by
  simpa using (frames_nodup (owned_runSchedule fresh schedule) found).length_le_card

/-- Where no other thread is inside a request, every request comes to its end by the actions of its
thread alone, none of which is passed because it is blocked. Over the whole life of the cells no
more builders are run than there are cells, and no more are at work at once within each other. -/
theorem single_thread_bounded [Fintype C] (m₀ : Machine T C σ α) (fresh : m₀.Fresh)
    (enabled : m₀.detector.isEnabled = true) (schedule : List T) (t : T)
    (alone : (m₀.runSchedule schedule).Alone t) :
    (∀ n u d, ¬ (m₀.runSchedule (schedule ++ List.replicate n t)).BlockedOn u d) ∧
    (m₀.Ungated → ∀ outer c next,
      (m₀.runSchedule schedule).threads.get? t = some (.run outer (.get c next)) →
      (m₀.runSchedule schedule).ReturnsAlone t ⟨c, next⟩ outer) ∧
    ∀ later,
      (m₀.invocations (schedule ++ later)).length ≤ Fintype.card C ∧
      ∀ u thread, (m₀.runSchedule (schedule ++ later)).threads.get? u = some thread →
        thread.frames.length ≤ Fintype.card C := by
  have free : ∀ n u d, ¬ (m₀.runSchedule (schedule ++ List.replicate n t)).BlockedOn u d := by
    intro n u d
    have alone' := alone.runSchedule n
    rw [← runSchedule_append] at alone'
    exact alone'.not_blocked fresh enabled
  refine ⟨free, fun ungated outer c next asks => ?_, fun later => ⟨?_, ?_⟩⟩
  · let m := m₀.runSchedule schedule
    have hstep : m.step t = some (m.setThread t (.request .check ⟨c, next⟩ outer)) := by
      simp [m, step, asks, runStep]
    obtain ⟨_, found, turn⟩ := turn_of_step hstep
    have ungated' := (ungated_runSchedule ungated schedule).turn found turn
    refine .of_step hstep (returnsAlone_of_inside ungated' (fun n => ?_)
      ⟨_, Table.get?_insert_self _ _ _, List.suffix_rfl⟩)
    rw [← runSchedule_replicate_succ hstep, ← runSchedule_append]
    exact free (n + 1) t
  · exact (invocations_nodup fresh (schedule ++ later)).1.length_le_card
  · exact fun u thread found => length_frames_le fresh (schedule ++ later) found

/-- The first thread builds its cell, and asks for the other cell, which needs the first one. -/
theorem crossing_bounded :
    let m := crossing.runSchedule (List.replicate 6 false)
    crossing.Fresh ∧ crossing.detector.isEnabled = true ∧ crossing.Ungated ∧ m.Alone false ∧
    m.threads.get? false = some (.run [⟨false, Program.ofResult⟩] (.get true Program.ofResult)) ∧
    m.ReturnsAlone false ⟨true, Program.ofResult⟩ [⟨false, Program.ofResult⟩] ∧
    (crossing.invocations (List.replicate 30 false)).length ≤ 2 := by
  have asks : (crossing.runSchedule (List.replicate 6 false)).threads.get? false =
      some (.run [⟨false, Program.ofResult⟩] (.get true Program.ofResult)) := by cbv
  have idle : (crossing.runSchedule (List.replicate 6 false)).threads.get? true =
      some (.run [] (.ask true)) := by cbv
  have alone : (crossing.runSchedule (List.replicate 6 false)).Alone false := by
    intro u thread hu found
    cases u with
    | false => exact absurd rfl hu
    | true =>
      obtain rfl := Option.some.inj (idle.symm.trans found)
      rfl
  obtain ⟨_, ends, bounded⟩ :=
    single_thread_bounded crossing crossing_fresh rfl (List.replicate 6 false) false alone
  exact ⟨crossing_fresh, rfl, crossing_ungated, alone, asks, ends crossing_ungated _ _ _ asks,
    (bounded (List.replicate 24 false)).1⟩

end ClusterDriver.Machine
