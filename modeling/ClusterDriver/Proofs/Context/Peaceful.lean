import ClusterDriver.Proofs.Context.ManagerBuild
import ClusterDriver.Proofs.Registry.Contracts
/-!
# Peaceful programs

A program is peaceful if it leaves the context open or closed as it is, gives no component another
builder and waits for no gate. The accessors and the builders of all components are peaceful, as
long as the strategies are. Where all programs are, an open context stays open.
-/
namespace ClusterDriver

def PeacefulAction : ContextProgram → Prop
  | .replace _ _ _ | .await _ _ => False
  | .update change _ => ∀ thread s, (change thread s).closed = s.closed
  | _ => True

def Peaceful : ContextProgram → Prop := Program.Within PeacefulAction

theorem Peaceful.steady {p : ContextProgram} (peaceful : Peaceful p) : p.Steady :=
  peaceful.mono fun _ action _ _ _ heq => by rw [heq] at action; exact action

theorem Peaceful.ungated {p : ContextProgram} (peaceful : Peaceful p) : p.Ungated :=
  peaceful.mono fun _ action _ _ heq => by rw [heq] at action; exact action

theorem lenient_peaceful : Lenient Peaceful where
  fail _ := trivial
  panic := trivial
  get _ _ h := ⟨trivial, h⟩
  read _ h := ⟨fun _ _ => rfl, h⟩

/-- A change of the shared state that closes nothing. -/
theorem Build.peaceful_update {β : Type} {change : String → ContextState → ContextState}
    (same : ∀ thread s, (change thread s).closed = s.closed) (f : String → ContextState → β) :
    Build.Passes Peaceful
      (fun next => .update change fun thread s => next (f thread s) : Build β) :=
  fun _ h => ⟨same, fun thread s => h (f thread s)⟩

theorem Assembly.peaceful_builder (a : Assembly) (strategies : a.strategies.Passes Peaceful)
    (id : ComponentId) : (a.builder id).Passes Peaceful := by
  have makeBus : (Build.makeBus EventBus.defaultCapacity).Passes Peaceful :=
    Build.passes_ite (Build.peaceful_update (fun _ _ => rfl) fun _ s => s.buses.length)
      fun _ _ => trivial
  cases id with
  | metadataManager =>
    refine Build.passes_bind (lenient_peaceful.require _) fun _ =>
      Build.passes_bind (lenient_peaceful.require _) fun _ =>
      Build.passes_bind (Build.peaceful_update (fun _ _ => rfl) fun _ s => s.managers.length)
        fun id => Build.passes_bind lenient_peaceful.state fun _ => ?_
    refine Build.passes_ite (Build.passes_bind ?_ fun _ => lenient_peaceful.raise _)
      (Build.passes_pure _)
    exact Build.peaceful_update (fun thread s => (s.closeManager_managers thread id).2)
      fun _ _ => ()
  | _ => exact lenient_peaceful.builder strategies makeBus (by simp)

theorem Context.peaceful_requireAll (ids : List ComponentId) :
    (requireAll ids).Passes Peaceful := by
  induction ids with
  | nil => exact Build.passes_pure _
  | cons id rest ih => exact Build.passes_bind (lenient_peaceful.require id) fun _ => ih

theorem Context.peaceful_initAll : Peaceful initAll :=
  peaceful_requireAll _ _ fun _ => trivial

namespace Machine
variable {m m' m₀ : ContextMachine} {t : String}

theorem closed_turn (peaceful : m.Within PeacefulAction) {thread : ContextThread}
    (found : m.threads.get? t = some thread) (turn : Turn m t thread m') :
    m'.shared.closed = m.shared.closed := by
  have within := peaceful.threads t thread found
  cases turn with
  | update => exact within.1.1 t m.shared
  | replace => exact within.1.1.elim
  | conclude | ask | look | stack | await | reuse | approach | refuse | wait | serve | claim
  | release | clear | enter | publish | leave | unwind => rfl

theorem closed_runSchedule (peaceful : m₀.Within PeacefulAction) (schedule : List String) :
    (m₀.runSchedule schedule).shared.closed = m₀.shared.closed := by
  refine runSchedule_induction (P := fun m => m.Within PeacefulAction ∧
    m.shared.closed = m₀.shared.closed) ⟨peaceful, rfl⟩ ?_ schedule |>.2
  rintro before t thread m' ⟨within, same⟩ found turn
  exact ⟨within.turn trivial found turn, (closed_turn within found turn).trans same⟩

end Machine
end ClusterDriver
