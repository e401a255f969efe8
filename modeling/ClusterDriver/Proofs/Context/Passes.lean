import ClusterDriver.Context.Assembly
/-!
# Properties that builds pass on

A build passes a property of programs on if its program has it as soon as all that it goes on with
has it. Composed builds do so if their parts do, and so do the accessors and the builders of all
components, as long as the strategies do. Only the bus and the metadata manager change the shared
state when they are built, so these two are left to each property.
-/
namespace ClusterDriver

/-- A property of programs that failures and panics have, and that asking and reading keep. -/
structure Lenient (P : ContextProgram → Prop) : Prop where
  fail : ∀ failure, P (.fail failure)
  panic : P .panic
  get : ∀ id next, (∀ result, P (next result)) → P (.get id next)
  read : ∀ next, (∀ thread s, P (next thread s)) → P (.read next)

namespace Build
variable {β γ : Type} {P : ContextProgram → Prop}

def Passes (P : ContextProgram → Prop) (build : Build β) : Prop :=
  ∀ next, (∀ b, P (next b)) → P (build next)

theorem passes_pure (b : β) : (pure b : Build β).Passes P := fun _ h => h b

theorem passes_bind {build : Build β} {f : β → Build γ} (first : build.Passes P)
    (rest : ∀ b, (f b).Passes P) : (build >>= f).Passes P :=
  fun next h => first _ fun b => rest b next h

theorem passes_ite {condition : Prop} [Decidable condition] {yes no : Build β}
    (hyes : yes.Passes P) (hno : no.Passes P) : (if condition then yes else no).Passes P := by
  split
  · exact hyes
  · exact hno

end Build

namespace Lenient
variable {β : Type} {P : ContextProgram → Prop} (lenient : Lenient P)
include lenient

theorem raise (failure : Failure) : (Build.raise failure : Build β).Passes P :=
  fun _ _ => lenient.fail failure

theorem ofResult (result : Except AccessError β) : (Build.ofResult result).Passes P := by
  cases result with
  | ok b => exact Build.passes_pure b
  | error e => exact lenient.raise _

theorem state : Build.state.Passes P := fun _ h => lenient.read _ fun _ s => h s

theorem cell (id : ComponentId) : (Build.cell id).Passes P := by
  refine fun next h => lenient.get id _ fun result => ?_
  cases result with
  | error e => exact h _
  | ok answer =>
    simp only
    split
    · exact h _
    · exact lenient.panic

theorem accessor (id : ComponentId) : (Build.get id).Passes P :=
  Build.passes_bind lenient.state fun _ => Build.passes_ite (Build.passes_pure _) (lenient.cell id)

theorem require (id : ComponentId) : (Build.require id).Passes P :=
  Build.passes_bind (lenient.accessor id) lenient.ofResult

end Lenient

namespace StrategyTable
variable {β : Type} {P : ContextProgram → Prop} {t : StrategyTable β}

def Passes (P : ContextProgram → Prop) (t : StrategyTable β) : Prop :=
  ∀ id build, t.entries.get? id = some build → build.Passes P

theorem Passes.optional (passes : t.Passes P) (lenient : Lenient P) (s : Settings)
    (option : KnownOption) : (t.optional s option).Passes P := by
  refine Build.passes_bind (lenient.ofResult _) fun found => ?_
  cases found with
  | none => exact Build.passes_pure _
  | some id =>
    cases h : t.entries.get? id with
    | none => simpa only [h] using lenient.raise _
    | some build =>
      simpa only [h] using Build.passes_bind (passes id build h) fun b =>
        Build.passes_pure (some b)

theorem Passes.required (passes : t.Passes P) (lenient : Lenient P) (s : Settings)
    (option : KnownOption) : (t.required s option).Passes P := by
  refine Build.passes_bind (passes.optional lenient s option) fun found => ?_
  cases found with
  | none => exact lenient.raise _
  | some strategy => exact Build.passes_pure _

theorem passes_empty (kind : String) : (⟨kind, .empty⟩ : StrategyTable β).Passes P := by
  intro id build h
  simp at h

theorem Passes.register (passes : t.Passes P) (id : String) {build : Build β}
    (new : build.Passes P) : (t.register id build).Passes P := by
  intro other found h
  simp only [StrategyTable.register, Table.get?_insert] at h
  split at h
  · cases h
    exact new
  · exact passes other found h

end StrategyTable

structure Strategies.Passes (P : ContextProgram → Prop) (t : Strategies) : Prop where
  balancing : t.balancing.Passes P
  reconnection : t.reconnection.Passes P
  addressing : t.addressing.Passes P
  auth : t.auth.Passes P
  ssl : t.ssl.Passes P
  compression : t.compression.Passes P

theorem Lenient.builtin {P : ContextProgram → Prop} (lenient : Lenient P) (s : Settings) :
    (Strategies.builtin s).Passes P where
  balancing := (StrategyTable.passes_empty _).register _ (Build.passes_pure _)
  reconnection := (StrategyTable.passes_empty _).register _ (lenient.ofResult _)
  addressing := (StrategyTable.passes_empty _).register _ (Build.passes_pure _)
  auth := (StrategyTable.passes_empty _).register _ (lenient.ofResult _)
  ssl := StrategyTable.passes_empty _
  compression := (StrategyTable.passes_empty _).register _ (Build.passes_pure _)

/-- The builders of all components but the manager, if the one of the bus does. -/
theorem Lenient.builder {P : ContextProgram → Prop} (lenient : Lenient P) {a : Assembly}
    (strategies : a.strategies.Passes P)
    (bus : (Build.makeBus EventBus.defaultCapacity).Passes P) {id : ComponentId}
    (other : id ≠ .metadataManager) : (a.builder id).Passes P := by
  cases id with
  | metadataManager => exact absurd rfl other
  | balancingPolicy => exact strategies.balancing.required lenient _ _
  | reconnectionPolicy => exact strategies.reconnection.required lenient _ _
  | addressTranslator => exact strategies.addressing.required lenient _ _
  | authProvider => exact strategies.auth.optional lenient _ _
  | sslEngine => exact strategies.ssl.optional lenient _ _
  | eventBus => exact bus
  | compressor =>
    exact Build.passes_bind (strategies.compression.optional lenient _ _) fun _ =>
      Build.passes_pure _
  | versionChoice | transportOptions => exact lenient.ofResult _
  | writeCoalescer | metricsFactory => exact Build.passes_pure _
  | sslHandler => exact lenient.require _
  | frameCodec | balancer =>
    exact Build.passes_bind (lenient.require _) fun _ =>
      Build.passes_bind (lenient.require _) fun _ => Build.passes_pure _
  | controlConnection =>
    exact Build.passes_bind (lenient.require _) fun _ =>
      Build.passes_bind (lenient.require _) fun _ =>
      Build.passes_bind (lenient.require _) fun _ => Build.passes_pure _
  | topologyMonitor =>
    exact Build.passes_bind (lenient.require _) fun _ =>
      Build.passes_bind (lenient.require _) fun _ =>
      Build.passes_bind (lenient.require _) fun _ =>
      Build.passes_bind (lenient.require _) fun _ => Build.passes_pure _
  | channelFactory =>
    exact Build.passes_bind (lenient.require _) fun _ =>
      Build.passes_bind (lenient.require _) fun _ =>
      Build.passes_bind (lenient.require _) fun _ =>
      Build.passes_bind (lenient.require _) fun _ =>
      Build.passes_bind (lenient.require _) fun _ =>
      Build.passes_bind (lenient.require _) fun _ => Build.passes_pure _

end ClusterDriver
