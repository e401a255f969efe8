import ClusterDriver.Context.Basic
import ClusterDriver.Scenario.Plan
import ClusterDriver.Scenario.Product
/-!
# Contexts with scripts

What the words of a plan mean in the builders of a context, and the assembly of a context whose
strategies have scripted constructors.
-/
namespace ClusterDriver.Scenario

/-- The line that says what is built, and then the steps of a script. -/
def scripted (label : String) (steps : (List String → ContextProgram) → ContextProgram) :
    Build Unit := do
  Build.report ("build " ++ label)
  fun next => steps fun _ => next ()

/-- Components are asked for through their accessors, and the settings are the context's. -/
def componentMeaning (a : Assembly) : Meaning ComponentId ContextState Answer Product where
  cell? := ComponentId.ofName?
  label := ComponentId.name
  get id next := .read fun _ s => if s.closed then next (.error .closed) else .get id next
  note thread line s := s.report thread line
  text _ := ""
  settings := a.settings
  close next := Build.close fun _ => (Build.report "closed") fun _ => next
  around id product steps := Build.program id (product.build a id (scripted id.name steps))

structure StrategyDeclaration where
  id : String
  steps : List (PlanStep Product)
  product : StrategyProduct

structure StrategiesDeclaration where
  /-- Whether the strategies that come with the driver are there. -/
  hasBuiltin : Bool := true
  registered : List StrategyDeclaration := []

namespace StrategiesDeclaration

def base (d : StrategiesDeclaration) (s : Settings) : Strategies :=
  if d.hasBuiltin then .builtin s else .empty

def register (inner : Assembly) (t : Strategies) (d : StrategyDeclaration) : Strategies :=
  d.product.register inner.settings d.id
    (scripted ("strategy " ++ d.id) ((componentMeaning inner).perform d.steps [])) t

/-- The assembly with its scripts. A script that puts a component's own builder back may so call
itself again, `rounds` times at most. -/
def assemblyFor (d : StrategiesDeclaration) (s : Settings) : (rounds : Nat) → Assembly
  | 0 => { settings := s, strategies := d.base s }
  | rounds + 1 =>
    { settings := s
      strategies := d.registered.foldl (register (d.assemblyFor s rounds)) (d.base s) }

/-- A script calls itself again only through a component that nobody had asked for, so there cannot
be more rounds than components. -/
def assembly (d : StrategiesDeclaration) (s : Settings) : Assembly :=
  d.assemblyFor s (ComponentId.all.length + 1)

end StrategiesDeclaration
end ClusterDriver.Scenario
