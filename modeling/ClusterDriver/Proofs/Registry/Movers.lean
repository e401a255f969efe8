import ClusterDriver.Proofs.GrowingLists
import ClusterDriver.Proofs.Registry.Outcomes
/-!
# Movers

Every cell is moved to the state of being built at most once, and while it is in that state the
thread that moved it has claimed it and not published it.
-/
namespace ClusterDriver.Machine
open Function
variable {T C σ α : Type} [DecidableEq T] [DecidableEq C] {m m' m₀ : Machine T C σ α} {t u v : T}
  {c : C} {schedule : List T}

theorem moved_concat : m₀.Moved (schedule ++ [t]) u c ↔
    m₀.Moved schedule u c ∨ u = t ∧ (m₀.runSchedule schedule).cells c ≠ .building ∧
      (m₀.runSchedule (schedule ++ [t])).cells c = .building := by
  constructor
  · rintro ⟨before, after, split, hbefore, hafter⟩
    rcases concat_eq_append_cons_iff.1 split with ⟨rfl, rfl, -⟩ | ⟨rest, -, earlier⟩
    · exact Or.inr ⟨rfl, hbefore, hafter⟩
    · exact Or.inl ⟨before, rest, earlier, hbefore, hafter⟩
  · rintro (⟨before, after, rfl, hbefore, hafter⟩ | ⟨rfl, hbefore, hafter⟩)
    · exact ⟨before, after ++ [t], by simp, hbefore, hafter⟩
    · exact ⟨schedule, [], rfl, hbefore, hafter⟩

/-- A cell that begins to be built had its builder until then. -/
theorem empty_of_building {thread : Thread T C σ α} (turn : Turn m t thread m')
    (before : m.cells c ≠ .building) (after : m'.cells c = .building) :
    ∃ builder, m.cells c = .empty builder := by
  have change := cellTurn_of_turn turn c
  generalize hcell : m'.cells c = cell at change
  rw [hcell] at after
  subst after
  generalize hnew : Cell.building = new at change
  cases change with
  | keep => exact absurd hnew.symm before
  | replace here free => exact ⟨_, free⟩
  | claim here cell free => exact ⟨_, free⟩
  | @publish r outer outcome here cell =>
    rcases status_settled m c outcome with h | h
    · rw [← hnew] at h
      cases h
    · rw [← hnew] at h
      cases h

/-- A builder that was taken from its cell never comes back. -/
theorem not_empty_turn {thread : Thread T C σ α} (turn : Turn m t thread m')
    (started : ∀ builder, m.cells c ≠ .empty builder) : ∀ builder, m'.cells c ≠ .empty builder := by
  intro builder empty
  rcases empty_turn turn empty with kept | ⟨_, _, old, _, free⟩
  · exact started builder kept
  · exact started old free

/-- What the past of a run says about the threads that claimed cells. -/
structure Attributed (m₀ : Machine T C σ α) (schedule : List T) (m : Machine T C σ α) : Prop where
  started : ∀ t c, m₀.Moved schedule t c → ∀ builder, m.cells c ≠ .empty builder
  unique : ∀ t u c, m₀.Moved schedule t c → m₀.Moved schedule u c → t = u
  claimed : ∀ t c, c ∈ (m.posture t).building → m₀.Moved schedule t c

theorem Attributed.turn (fresh : m₀.Fresh) (past : m₀.Attributed schedule (m₀.runSchedule schedule))
    {thread : Thread T C σ α} (found : (m₀.runSchedule schedule).threads.get? t = some thread)
    (turn : Turn (m₀.runSchedule schedule) t thread (m₀.runSchedule (schedule ++ [t]))) :
    m₀.Attributed (schedule ++ [t]) (m₀.runSchedule (schedule ++ [t])) := by
  have owned := owned_runSchedule fresh schedule
  have owned' := owned_runSchedule fresh (schedule ++ [t])
  constructor
  · intro u c moved
    rcases moved_concat.1 moved with old | ⟨rfl, before, after⟩
    · exact not_empty_turn turn (past.started u c old)
    · intro builder hempty
      rw [after] at hempty
      cases hempty
  · intro u v c hu hv
    rcases moved_concat.1 hu with oldU | ⟨rfl, before, after⟩
    · rcases moved_concat.1 hv with oldV | ⟨rfl, before, after⟩
      · exact past.unique u v c oldU oldV
      · obtain ⟨builder, free⟩ := empty_of_building turn before after
        exact absurd free (past.started u c oldU builder)
    · rcases moved_concat.1 hv with oldV | ⟨rfl, _, _⟩
      · obtain ⟨builder, free⟩ := empty_of_building turn before after
        exact absurd free (past.started v c oldV builder)
      · rfl
  · intro u c hc
    have after := (building_iff owned').2 ⟨u, hc⟩
    by_cases before : (m₀.runSchedule schedule).cells c = .building
    · obtain ⟨w, hw⟩ := (building_iff owned).1 before
      have same : w = u := by
        by_cases hwt : w = t
        · by_cases hut : u = t
          · exact hwt.trans hut.symm
          · rw [posture_turn turn hut] at hc
            exact owned.unique w u c (Posture.held_of_mem_building hw)
              (Posture.held_of_mem_building hc)
        · rw [← posture_turn turn hwt] at hw
          exact owned'.unique w u c (Posture.held_of_mem_building hw)
            (Posture.held_of_mem_building hc)
      exact moved_concat.2 (Or.inl (past.claimed u c (same ▸ hw)))
    · have hut : u = t := by
        by_contra hut
        rw [posture_turn turn hut] at hc
        exact before ((building_iff owned).2 ⟨u, hc⟩)
      exact moved_concat.2 (Or.inr ⟨hut, before, after⟩)

theorem attributed_runSchedule (fresh : m₀.Fresh) (schedule : List T) :
    m₀.Attributed schedule (m₀.runSchedule schedule) := by
  refine schedule_induction m₀ (P := fun before => m₀.Attributed before (m₀.runSchedule before))
    ?_ ?_ ?_ schedule
  · constructor
    · rintro t c ⟨before, after, heq, _⟩
      simp at heq
    · rintro t u c ⟨before, after, heq, _⟩
      simp at heq
    · intro t c hc
      have here : m₀.posture t = ⟨[], .none⟩ := fresh.posture t
      simp [runSchedule, here, Posture.building, Posture.held] at hc
  · intro before t past _ same
    have moved : ∀ u c, m₀.Moved (before ++ [t]) u c ↔ m₀.Moved before u c := by
      intro u c
      rw [moved_concat, same]
      exact or_iff_left fun h => h.2.1 h.2.2
    rw [same]
    constructor
    · simpa only [moved] using past.started
    · simpa only [moved] using past.unique
    · simpa only [moved] using past.claimed
  · exact fun before t thread past found turn => past.turn fresh found turn

/-- The builder of a cell, once it is at work, is the one thread that ever claimed the cell. -/
theorem mover_of_building (fresh : m₀.Fresh) (schedule : List T)
    (building : (m₀.runSchedule schedule).cells c = .building) :
    ∃ t, (∀ u, m₀.Moved schedule u c ↔ u = t) ∧
      c ∈ ((m₀.runSchedule schedule).posture t).building := by
  have past := attributed_runSchedule fresh schedule
  obtain ⟨t, ht⟩ := (building_iff (owned_runSchedule fresh schedule)).1 building
  have moved := past.claimed t c ht
  refine ⟨t, fun u => ⟨fun hu => past.unique u t c hu moved, ?_⟩, ht⟩
  rintro rfl
  exact moved

end ClusterDriver.Machine
