import ClusterDriver.Scenario.Plan
import ClusterDriver.Scenario.Report
import ClusterDriver.Registry.Schedule
import ClusterDriver.Text.Shape
/-!
# Sessions over cells

Cells of strings with scripted builders that share one detector, and calls to them from the
session's own thread and from threads that it starts. A cell is its place among the declarations. A
name stands for the first cell that was declared with it, so one declared later under the same name
is never asked for.
-/
namespace ClusterDriver.Scenario

abbrev Journal := List (String × String)

abbrev CellMachine := Machine String Nat Journal String

structure CellDeclaration where
  name : String
  plan : Plan String

inductive CellCommand where
  | get (cell : String)
  | peek (cell : String)
  | status (cell : String)
  | debug (cell : String)
  | replace (cell : String) (plan : Plan String)
  | stack
  | spawn (thread cell : String)
  | openGate (gate : String)

/-- The name of the cell at a place. -/
def label (names : List String) (place : Nat) : String := names[place]?.getD ""

/-- A cell is asked for as it is, its product is its value with the texts that were read, and
closing means nothing. -/
def cellMeaning (names : List String) : Meaning Nat Journal String String where
  cell? name := names.idxOf? name
  label := label names
  get c next := .get c next
  note thread line journal := journal ++ [(thread, line)]
  text := id
  settings := .empty
  close next := next
  around c value steps :=
    .update (fun thread journal => journal ++ [(thread, "build " ++ label names c)]) fun _ _ =>
      steps fun texts => .ok (value ++ "(" ++ ",".intercalate texts ++ ")")

structure CellSession where
  names : List String
  machine : CellMachine
  spawned : List String := []

namespace CellSession

def ofDeclarations (detect : Bool) (declarations : List CellDeclaration) : CellSession :=
  let names := declarations.map CellDeclaration.name
  let meaning := cellMeaning names
  { names
    machine :=
      { label := label names
        cells := fun c => match declarations[c]? with
          | some d => .empty (meaning.builder c d.plan)
          | none => .empty .panic
        detector := { isEnabled := detect }
        shared := [] } }

def cellShape (name : String) (status : CellStatus) : Text.Shape :=
  .record "LazyCell" [("name", .text name), ("status", .word status.name)] false

def standing (m : CellMachine) (thread : String) : Json :=
  match m.standing? thread with
  | none => .null
  | some s => standingJson (outcomeJson Json.text) s

/-- The place of the cell that a name stands for, which is past the end if there is none. -/
def place (s : CellSession) (name : String) : Nat := s.names.idxOf name

def content (s : CellSession) (name : String) : Content String := s.machine.content (s.place name)

def act (s : CellSession) : CellCommand → Json × CellSession
  | .get cell =>
    let machine := (s.machine.start mainThread (.ask (s.place cell))).settle
    let answer := match machine.threads.get? mainThread with
      | some (.done outcome) => outcomeJson Json.text outcome
      | _ => hungJson
    (answer, { s with machine })
  | .peek cell => (.option .text (s.content cell).peek, s)
  | .status cell => (.text (s.content cell).status.name, s)
  | .debug cell => (.text (cellShape cell (s.content cell).status).line, s)
  | .replace cell plan =>
    let place := s.place cell
    let (installed, machine) := s.machine.replace place ((cellMeaning s.names).builder place plan)
    (.bool installed, { s with machine })
  | .stack => (.texts ((s.machine.detector.stack mainThread).map (label s.names)), s)
  | .spawn thread cell =>
    (.null, { s with
      machine := (s.machine.start thread (.ask (s.place cell))).settle
      spawned := if thread ∈ s.spawned then s.spawned else s.spawned ++ [thread] })
  | .openGate gate => (.null, { s with machine := (s.machine.openGate gate).settle })

def step (s : CellSession) (command : CellCommand) : Json × CellSession :=
  let (answer, s) := s.act command
  let report : StepReport :=
    { answer
      cells := (List.range s.names.length).map fun c => (s.machine.content c).status
      lines := s.machine.shared
      threads := s.spawned.map fun t => (t, standing s.machine t) }
  (report.toJson, { s with machine := { s.machine with shared := [] } })

def run (s : CellSession) : List CellCommand → List Json
  | [] => []
  | command :: rest =>
    let (reply, s) := s.step command
    reply :: s.run rest

end CellSession
end ClusterDriver.Scenario
