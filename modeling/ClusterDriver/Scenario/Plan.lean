import ClusterDriver.Registry.Program
import ClusterDriver.Cluster.Version
import ClusterDriver.Settings.Basic
import ClusterDriver.Scenario.Report
/-!
# Scripted builders

A small language for builders that are given as data: steps in order, and then a product. What the
words mean depends on the cells that they are about, so it is a parameter.
-/
namespace ClusterDriver.Scenario

inductive Getter where
  | string
  | optionalString
  | integer
  | boolean
  | duration
  | list
  deriving DecidableEq, Repr

inductive PlanStep (μ : Type) where
  /-- Asks for a component; its error is raised under the contexts. -/
  | get (name : String) (contexts : List String)
  /-- Asks for a component and goes on whatever comes. -/
  | attempt (name : String)
  | fail (messages : List String)
  | raise (error : AccessError) (contexts : List String)
  | version (raw : String)
  | read (getter : Getter) (path : String)
  | panic
  | log (text : String)
  | status (name : String)
  | stack
  | replace (name : String) (steps : List (PlanStep μ)) (product : μ)
  | close
  | gate (name : String)

structure Plan (μ : Type) where
  steps : List (PlanStep μ)
  product : μ

/-- A typed read of the settings as it is reported. -/
def readJson (s : Settings) (path : String) : Getter → Except AccessError Json
  | .string => (s.string path).map .text
  | .optionalString => (s.optionalString path).map (.option .text)
  | .integer => (s.integer path).map .integer
  | .boolean => (s.boolean path).map .bool
  | .duration => (s.duration path).map Span.toJson
  | .list => (s.list path).map .texts

/-- What the words of a plan mean: which cells names stand for, how cells are asked for, how lines
are written, what closing is, and what belongs around the steps of a cell's builder. -/
structure Meaning (C σ α μ : Type) where
  cell? : String → Option C
  label : C → String
  get : C → (Except AccessError α → Program String C σ α) → Program String C σ α
  note : String → String → σ → σ
  text : α → String
  settings : Settings
  close : Program String C σ α → Program String C σ α
  around : C → μ → ((List String → Program String C σ α) → Program String C σ α) →
    Program String C σ α

namespace Meaning
variable {C σ α μ : Type}

def report (g : Meaning C σ α μ) (line : String) (next : Program String C σ α) :
    Program String C σ α :=
  .update (fun thread s => g.note thread line s) fun _ _ => next

/-- Goes on with the cell of a name. A name without a cell is a mistake in the plan. -/
def withCell (g : Meaning C σ α μ) (name : String) (next : C → Program String C σ α) :
    Program String C σ α :=
  match g.cell? name with
  | some c => next c
  | none => .panic

mutual
/-- One step, and then what comes next. `texts` are the texts of what was read so far, for the
product. -/
def act (g : Meaning C σ α μ) (step : PlanStep μ) (texts : List String)
    (next : List String → Program String C σ α) : Program String C σ α :=
  match step with
  | .get name contexts =>
    g.withCell name fun c => g.get c fun
      | .error e => .fail ((Failure.ofAccess e).addContexts contexts)
      | .ok value => next (texts ++ [g.text value])
  | .attempt name =>
    g.withCell name fun c => g.get c fun
      | .error e => g.report e.message (next (texts ++ ["!"]))
      | .ok value => g.report (name ++ " ok") (next (texts ++ [g.text value]))
  | .fail messages => .fail { cause := .foreign messages }
  | .raise error contexts => .fail { contexts, cause := .access error }
  | .version raw =>
    match ServerVersion.ofText raw with
    | .ok v => g.report v.text (next texts)
    | .error e => .fail (.ofText e)
  | .read getter path =>
    match readJson g.settings path getter with
    | .ok json => g.report (json.sorted.compact false) (next texts)
    | .error e => .fail (.ofAccess e)
  | .panic => .panic
  | .log text => g.report text (next texts)
  | .status name =>
    g.withCell name fun c => .look c fun content =>
      g.report (name ++ " " ++ content.status.name) (next texts)
  | .stack =>
    .stack fun cells =>
      g.report ("stack " ++ ">".intercalate (cells.map g.label)) (next texts)
  | .replace name steps product =>
    g.withCell name fun c =>
      .replace c (g.around c product fun finish => g.perform steps [] finish) fun installed =>
        g.report ("replace " ++ name ++ (if installed then " true" else " false")) (next texts)
  | .close => g.close (next texts)
  | .gate gate =>
    .read fun thread _ => if thread = mainThread then next texts else .await gate (next texts)
termination_by structural step

/-- The steps in order. -/
def perform (g : Meaning C σ α μ) (steps : List (PlanStep μ)) (texts : List String)
    (finish : List String → Program String C σ α) : Program String C σ α :=
  match steps with
  | [] => finish texts
  | step :: rest => g.act step texts fun texts => g.perform rest texts finish
termination_by structural steps
end

/-- The builder that a plan describes for a cell. -/
def builder (g : Meaning C σ α μ) (c : C) (plan : Plan μ) : Program String C σ α :=
  g.around c plan.product fun finish => g.perform plan.steps [] finish

end Meaning
end ClusterDriver.Scenario
