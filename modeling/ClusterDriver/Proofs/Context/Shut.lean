import ClusterDriver.Proofs.Context.ManagerBuild
/-!
# Shut contexts

Once a context is closed, no manager accepts jobs and none is being built, nothing changes this. A
builder of the manager that was not begun would find the context closed.
-/
namespace ClusterDriver

theorem Thread.All.mono {T C σ α : Type} {P Q : Program T C σ α → Prop} (sub : ∀ p, P p → Q p)
    {thread : Thread T C σ α} (all : thread.All P) : thread.All Q := by
  cases thread with
  | done outcome => trivial
  | run requests p => exact ⟨sub p all.1, fun r hr result => sub _ (all.2 r hr result)⟩
  | request stage r outer =>
    exact ⟨fun q hq result => sub _ (all.1 q hq result), fun b hb => sub b (all.2 b hb)⟩

namespace Machine
variable {m m' m₀ : ContextMachine} {t u : String} {thread : ContextThread}

/-- No coordination task accepts jobs, and none will be started. -/
structure Shut (m : ContextMachine) : Prop where
  closed : m.shared.closed = true
  stopped : m.shared.Stopped
  cells : ∀ id builder, m.cells id = .empty builder → TameOnceClosed builder
  threads : ∀ t thread, m.threads.get? t = some thread → thread.All TameOnceClosed

theorem shut_of_contained (contained : m.Contained) (owned : m.roster.Owned)
    (closed : m.shared.closed = true) (stopped : m.shared.Stopped)
    (idle : m.cells .metadataManager ≠ .building) : m.Shut where
  closed := closed
  stopped := stopped
  cells id builder hid := by
    by_cases manager : id = .metadataManager
    · have stored := contained.cell
      rw [← manager, hid] at stored
      exact stored.1 ▸ managerBuilder_onceClosed
    · exact (contained.others id builder manager hid).onceClosed
  threads t thread found := by
    have away : ComponentId.metadataManager ∉ thread.posture.building := by
      intro there
      rw [← posture_of_get? found] at there
      exact idle ((building_iff owned).2 ⟨t, there⟩)
    exact ((contains_iff away).1 (contained.threads t thread found)).mono fun p => Tame.onceClosed

/-- The manager has not been asked for, or its builder has failed. -/
theorem shut_of_unbuilt (contained : m.Contained) (owned : m.roster.Owned)
    (closed : m.shared.closed = true) (idle : m.cells .metadataManager ≠ .building)
    (unbuilt : ∀ value, m.cells .metadataManager ≠ .built value) : m.Shut := by
  refine shut_of_contained contained owned closed ?_ idle
  have stored := contained.cell
  cases hcell : m.cells .metadataManager with
  | empty builder =>
    rw [hcell] at stored
    exact ContextState.stopped_of_empty stored.2
  | building => exact absurd hcell idle
  | built value => exact absurd hcell (unbuilt value)
  | failed error =>
    rw [hcell] at stored
    exact stored

/-- The manager that was built has been stopped. -/
theorem shut_of_closeManager (contained : m.Contained) (contained' : m'.Contained)
    (owned' : m'.roster.Owned) (closed : m.shared.closed = true) {value : Answer}
    (built : m.cells .metadataManager = .built value) (cells : m'.cells = m.cells)
    (shared : m'.shared = m.shared.closeManager t 0) : m'.Shut := by
  have stored := contained.cell
  rw [built] at stored
  have still : m'.shared.closed = true := shared ▸ (m.shared.tame_closeManager t 0).closed closed
  have stopped : m'.shared.Stopped := shared ▸ m.shared.stopped_of_closeManager t stored.2
  refine shut_of_contained contained' owned' still stopped ?_
  rw [cells, built]
  exact nofun

/-- An action of a thread all of whose programs are tame once the context is closed. -/
theorem all_turn (shut : m.Shut) (found : m.threads.get? t = some thread)
    (turn : Turn m t thread m') {new : ContextThread} (hnew : m'.threads.get? t = some new) :
    new.All TameOnceClosed := by
  have all := shut.threads t thread found
  have outside : ∀ {r : ContextRequest} {outer : List ContextRequest},
      (∀ q ∈ r :: outer, ∀ result, TameOnceClosed (q.next result)) →
      ∀ q ∈ outer, ∀ result, TameOnceClosed (q.next result) :=
    fun all q hq => all q (List.mem_cons_of_mem _ hq)
  cases turn with
  | @conclude requests program outcome ends =>
    obtain rfl := get?_setThread_self hnew
    cases requests with
    | nil => trivial
    | cons r outer => exact ⟨all.2, nofun⟩
  | ask =>
    obtain rfl := get?_setThread_self hnew
    exact ⟨List.forall_mem_cons.2 ⟨all.1, all.2⟩, nofun⟩
  | look | stack =>
    obtain rfl := get?_setThread_self hnew
    exact ⟨all.1 _, all.2⟩
  | replace =>
    obtain rfl := get?_setThread_self hnew
    exact ⟨all.1.2.2 _, all.2⟩
  | update =>
    obtain rfl := get?_setThread_self hnew
    exact ⟨all.1.2 t m.shared shut.closed, all.2⟩
  | await =>
    obtain rfl := get?_setThread_self hnew
    exact all
  | reuse | refuse | release | leave =>
    obtain rfl := get?_setThread_self hnew
    exact ⟨all.1 _ List.mem_cons_self _, outside all.1⟩
  | unwind =>
    obtain rfl := get?_setThread_self hnew
    exact ⟨trivial, outside all.1⟩
  | approach | wait | serve | publish =>
    obtain rfl := get?_setThread_self hnew
    exact ⟨all.1, nofun⟩
  | claim free =>
    obtain rfl := get?_setThread_self hnew
    refine ⟨all.1, fun b hb => ?_⟩
    cases hb
    exact shut.cells _ _ free
  | clear =>
    obtain rfl := get?_setThread_self hnew
    exact all
  | enter =>
    obtain rfl := get?_setThread_self hnew
    exact ⟨all.2 _ rfl, all.1⟩

theorem Shut.tame (shut : m.Shut) (found : m.threads.get? t = some thread)
    (turn : Turn m t thread m') : m.shared.Tame m'.shared := by
  have all := shut.threads t thread found
  cases turn with
  | update => exact all.1.1 t m.shared
  | @replace requests cell builder next =>
    change m.shared.Tame (m.replace cell builder).2.shared
    rw [shared_replace]
    exact .refl _
  | conclude | ask | look | stack | await | reuse | approach | refuse | wait | serve | claim
  | release | clear | enter | publish | leave | unwind => exact .refl _

theorem Shut.turn (shut : m.Shut) (found : m.threads.get? t = some thread)
    (turn : Turn m t thread m') : m'.Shut where
  closed := (shut.tame found turn).closed shut.closed
  stopped := (shut.tame found turn).keeps_stopped shut.stopped
  cells id builder hid := by
    rcases empty_turn turn hid with kept | ⟨_, _, _, rfl, _⟩
    · exact shut.cells id builder kept
    · exact (shut.threads t _ found).1.2.1
  threads := forall_threads_turn turn (fun u other _ there => shut.threads u other there)
    fun _ hnew => all_turn shut found turn hnew

/-- Nothing is started any more. -/
theorem Shut.runSchedule (shut : m.Shut) (later : List String) :
    (m.runSchedule later).Shut ∧
      (m.runSchedule later).shared.managers.length = m.shared.managers.length := by
  refine runSchedule_induction (P := fun m' => m'.Shut ∧
    m'.shared.managers.length = m.shared.managers.length) ⟨shut, rfl⟩ ?_ later
  rintro before t thread m' ⟨shut, same⟩ found turn
  exact ⟨shut.turn found turn, (shut.tame found turn).length.trans same⟩

end Machine
end ClusterDriver
