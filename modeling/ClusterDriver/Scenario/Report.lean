import ClusterDriver.Registry.Machine
import ClusterDriver.Json
/-!
# Reports of a session

What a session over cells shows after each of its steps: the answer, the standing of every cell, the
lines that were written since the step before, and where the threads are that it started.
-/
namespace ClusterDriver.Scenario

/-- The session's own thread. -/
def mainThread : String := "main"

def panicJson : Json := .object [("panicked", .bool true)]

/-- What stands for an answer that never comes. -/
def hungJson : Json := .object [("blocked", .bool true)]

def statusLetter : CellStatus → Char
  | .empty => '.'
  | .building => '~'
  | .built => 'B'
  | .failed => 'F'

def outcomeJson {α : Type} (f : α → Json) : Outcome Failure α → Json
  | .panicked => panicJson
  | .returned (.ok value) => .object [("ok", f value)]
  | .returned (.error failure) => (failure.attributedTo "").toJson

def standingJson {α : Type} (done : Outcome Failure α → Json) : Machine.Standing α → Json
  | .done outcome => .object [("done", done outcome)]
  | .atGate gate => .object [("gate", .text gate)]
  | .blocked => .text "blocked"

/-- Lines by the name of their thread; those of one thread stay in order. -/
def logJson (lines : List (String × String)) : Json :=
  .list ((lines.mergeSort fun a b => decide (a.1 ≤ b.1)).map fun l => .texts [l.1, l.2])

structure StepReport where
  answer : Json
  cells : List CellStatus
  lines : List (String × String)
  threads : List (String × Json)

def StepReport.toJson (r : StepReport) : Json :=
  .object
    ([("r", r.answer), ("cells", .text (String.ofList (r.cells.map statusLetter)))] ++
      (if r.lines.isEmpty then [] else [("log", logJson r.lines)]) ++
      (if r.threads.isEmpty then [] else [("threads", .object r.threads)]))

end ClusterDriver.Scenario
