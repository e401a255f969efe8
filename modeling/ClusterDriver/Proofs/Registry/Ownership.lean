import ClusterDriver.Proofs.Registry.Runs
/-!
# Ownership

A cell is held by at most one thread, and at most once. It is being built exactly while some thread
has claimed it and not published it. Nothing is assumed of the detector, so this also holds where
detection is off.
-/
namespace ClusterDriver
open Function

structure Roster.Owned {T C : Type} (s : Roster T C) : Prop where
  nodup : ∀ t, (s.posture t).held.Nodup
  unique : ∀ t u c, c ∈ (s.posture t).held → c ∈ (s.posture u).held → t = u
  started : ∀ t c, c ∈ (s.posture t).held → s.status c ≠ .empty
  building_iff : ∀ c, s.status c = .building ↔ ∃ t, c ∈ (s.posture t).building

namespace Roster
variable {T C : Type} [DecidableEq T] [DecidableEq C] {s s' : Roster T C} {t : T}

omit [DecidableEq C] in
/-- What one thread does to its posture is seen by every thread. -/
theorem update_apply_of {β : Type} (f : Posture C → β) {g : T → Posture C} {p : Posture C}
    (same : f p = f (g t)) (u : T) : f (update g t p u) = f (g u) := by
  by_cases hu : u = t
  · subst hu
    simpa using same
  · simp [hu]

omit [DecidableEq T] [DecidableEq C] in
theorem Owned.entered_nodup (owned : s.Owned) (t : T) : (s.posture t).entered.Nodup :=
  (owned.nodup t).sublist (s.posture t).entered_suffix_held.sublist

omit [DecidableEq T] [DecidableEq C] in
theorem Owned.of_same (owned : s.Owned) (held : ∀ t, (s'.posture t).held = (s.posture t).held)
    (building : ∀ t, (s'.posture t).building = (s.posture t).building)
    (status : s'.status = s.status) : s'.Owned where
  nodup t := by simpa only [held] using owned.nodup t
  unique t u c := by simpa only [held] using owned.unique t u c
  started t c := by simpa only [held, status] using owned.started t c
  building_iff c := by simpa only [building, status] using owned.building_iff c

omit [DecidableEq C] in
/-- A posture that holds and builds what the one before it did. -/
theorem Owned.of_update (owned : s.Owned) {p : Posture C} (held : p.held = (s.posture t).held)
    (building : p.building = (s.posture t).building)
    (posture : s'.posture = update s.posture t p) (status : s'.status = s.status) : s'.Owned := by
  refine owned.of_same ?_ ?_ status
  · intro u
    rw [posture]
    exact update_apply_of Posture.held held u
  · intro u
    rw [posture]
    exact update_apply_of Posture.building building u

theorem Owned.claim (owned : s.Owned) {cells : List C} {c : C}
    (here : s.posture t = ⟨cells, .waiting c⟩) (free : s.status c = .empty) :
    Owned { s with
      posture := update s.posture t ⟨cells, .claimed c⟩
      status := update s.status c .building } := by
  have unheld : ∀ u, c ∉ (s.posture u).held := fun u hc => owned.started u c hc free
  have cells_nodup : cells.Nodup := by simpa [here, Posture.held] using owned.nodup t
  have held_iff : ∀ u d, d ∈ (update s.posture t ⟨cells, .claimed c⟩ u).held ↔
      d ∈ (s.posture u).held ∨ u = t ∧ d = c := by
    intro u d
    by_cases hu : u = t
    · subst hu
      simp [Posture.held, here, or_comm]
    · simp [hu]
  have building_iff : ∀ u d, d ∈ (update s.posture t ⟨cells, .claimed c⟩ u).building ↔
      d ∈ (s.posture u).building ∨ u = t ∧ d = c := by
    intro u d
    by_cases hu : u = t
    · subst hu
      simp [Posture.building, Posture.held, here, or_comm]
    · simp [hu]
  constructor
  · intro u
    by_cases hu : u = t
    · subst hu
      have hc : c ∉ cells := by simpa [here, Posture.held] using unheld u
      simpa [Posture.held] using ⟨hc, cells_nodup⟩
    · simpa [hu] using owned.nodup u
  · intro u v d hu hv
    rcases (held_iff u d).1 hu with oldU | ⟨rfl, rfl⟩
    · rcases (held_iff v d).1 hv with oldV | ⟨rfl, rfl⟩
      · exact owned.unique u v d oldU oldV
      · exact absurd oldU (unheld u)
    · rcases (held_iff v d).1 hv with oldV | ⟨rfl, _⟩
      · exact absurd oldV (unheld v)
      · rfl
  · intro u d hd
    by_cases hdc : d = c
    · simp [hdc]
    · rcases (held_iff u d).1 hd with old | ⟨_, rfl⟩
      · simpa [hdc] using owned.started u d old
      · exact absurd rfl hdc
  · intro d
    by_cases hdc : d = c
    · subst hdc
      exact ⟨fun _ => ⟨t, (building_iff t d).2 (Or.inr ⟨rfl, rfl⟩)⟩, fun _ => by simp⟩
    · simp only [building_iff, hdc, and_false, or_false, update_of_ne hdc]
      exact owned.building_iff d

theorem Owned.publish (owned : s.Owned) {cells : List C} {c : C} {status : CellStatus}
    (here : s.posture t = ⟨c :: cells, .none⟩) (complete : status = .built ∨ status = .failed) :
    Owned { s with
      posture := update s.posture t ⟨c :: cells, .published⟩
      status := update s.status c status } := by
  have held_same : ∀ u, (update s.posture t ⟨c :: cells, .published⟩ u).held =
      (s.posture u).held :=
    fun u => update_apply_of Posture.held (by rw [here]; rfl) u
  have c_held : c ∈ (s.posture t).held := by simp [here, Posture.held]
  have fresh : c ∉ cells := by
    have hnodup := owned.nodup t
    simp only [here, Posture.held] at hnodup
    exact (List.nodup_cons.1 hnodup).1
  have building_iff : ∀ u d, d ∈ (update s.posture t ⟨c :: cells, .published⟩ u).building ↔
      d ∈ (s.posture u).building ∧ d ≠ c := by
    intro u d
    by_cases hu : u = t
    · subst hu
      have hne : d ∈ cells → d ≠ c := fun hd heq => fresh (heq ▸ hd)
      by_cases hdc : d = c
      · simp [Posture.building, Posture.held, here, hdc, fresh]
      · simp [Posture.building, Posture.held, here, hdc]
    · have hne : d ∈ (s.posture u).building → d ≠ c := fun hd heq =>
        hu (owned.unique u t c (heq ▸ Posture.held_of_mem_building hd) c_held)
      simpa [hu] using hne
  constructor
  · intro u
    simpa only [held_same] using owned.nodup u
  · intro u v d
    simpa only [held_same] using owned.unique u v d
  · intro u d hd
    by_cases hdc : d = c
    · rcases complete with rfl | rfl <;> simp [hdc]
    · simp only [held_same] at hd
      simpa [hdc] using owned.started u d hd
  · intro d
    by_cases hdc : d = c
    · rcases complete with rfl | rfl <;> simp [hdc, building_iff]
    · simp only [building_iff, ne_eq, hdc, not_false_eq_true, and_true, update_of_ne hdc]
      exact owned.building_iff d

omit [DecidableEq C] in
theorem Owned.leave (owned : s.Owned) {cells : List C} {c : C} {detector : Detector T C}
    (here : s.posture t = ⟨c :: cells, .published⟩) :
    Owned { s with posture := update s.posture t ⟨cells, .none⟩, detector } := by
  have held_of : ∀ u d, d ∈ (update s.posture t ⟨cells, .none⟩ u).held →
      d ∈ (s.posture u).held := by
    intro u d hd
    by_cases hu : u = t
    · subst hu
      simp only [update_self, Posture.held] at hd
      simpa [here, Posture.held] using Or.inr hd
    · simpa [hu] using hd
  have building_same : ∀ u, (update s.posture t ⟨cells, .none⟩ u).building =
      (s.posture u).building :=
    fun u => update_apply_of Posture.building (by rw [here]; rfl) u
  constructor
  · intro u
    by_cases hu : u = t
    · subst hu
      have hnodup := owned.nodup u
      simp only [here, Posture.held] at hnodup
      simpa [Posture.held] using (List.nodup_cons.1 hnodup).2
    · simpa [hu] using owned.nodup u
  · exact fun u v d hu hv => owned.unique u v d (held_of u d hu) (held_of v d hv)
  · exact fun u d hd => owned.started u d (held_of u d hd)
  · intro d
    simpa only [building_same] using owned.building_iff d

theorem Owned.move (owned : s.Owned) (h : Move t s s') : s'.Owned := by
  cases h with
  | pass => exact owned
  | wait here _ => exact owned.of_update (by rw [here]; rfl) (by rw [here]; rfl) rfl rfl
  | release here => exact owned.of_update (by rw [here]; rfl) (by rw [here]; rfl) rfl rfl
  | claim here free => exact owned.claim here free
  | clear here => exact owned.of_update (by rw [here]; rfl) (by rw [here]; rfl) rfl rfl
  | enter here => exact owned.of_update (by rw [here]; rfl) (by rw [here]; rfl) rfl rfl
  | publish here complete => exact owned.publish here complete
  | leave here => exact owned.leave here

end Roster

namespace Machine
variable {T C σ α : Type} [DecidableEq T] [DecidableEq C] {m m₀ : Machine T C σ α}

omit [DecidableEq C] in
theorem Fresh.posture (fresh : m.Fresh) (t : T) : m.posture t = ⟨[], .none⟩ := by
  cases hthread : m.threads.get? t with
  | none => simp [Machine.posture, hthread]
  | some thread =>
    obtain ⟨program, rfl⟩ := fresh.threads t thread hthread
    exact posture_of_get? hthread

omit [DecidableEq C] in
theorem Fresh.status (fresh : m.Fresh) (c : C) : m.roster.status c = .empty := by
  obtain ⟨builder, hc⟩ := fresh.cells c
  simp [roster, content, hc, Cell.content, Content.status]

omit [DecidableEq C] in
theorem Fresh.owned (fresh : m.Fresh) : m.roster.Owned := by
  have posture : ∀ t, m.roster.posture t = ⟨[], .none⟩ := fresh.posture
  constructor
  · exact fun t => by simp [posture, Posture.held]
  · exact fun t u c hc => by simp [posture, Posture.held] at hc
  · exact fun t c hc => by simp [posture, Posture.held] at hc
  · exact fun c => by simp [posture, Posture.building, Posture.held, fresh.status]

theorem owned_runSchedule (fresh : m₀.Fresh) (schedule : List T) :
    (m₀.runSchedule schedule).roster.Owned := by
  refine runSchedule_induction (P := fun m => m.roster.Owned) fresh.owned ?_ schedule
  intro before t thread m' owned found turn
  exact owned.move (roster_turn found turn)

end Machine
end ClusterDriver
