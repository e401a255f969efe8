import ClusterDriver.Cluster.Manager
/-!
# Scripted jobs

Jobs for a coordination task that are given as data: actions in order, each with an answer. The
answer of the job is the list of their answers.
-/
namespace ClusterDriver.Scenario

/-- A node that is a member now, or one whose descriptor was kept under a name. -/
inductive NodeRef where
  | member (address : Endpoint)
  | kept (name : String)

inductive Action where
  | addNode (address : Endpoint) (keep : Option String)
  | removeNode (address : Endpoint) (keep : Option String)
  | node (ref : NodeRef) (keep : Option String)
  | nodes
  | change (ref : NodeRef) (change : Change)
  | log (line : String)
  | panic
  /-- Asks the task, from one of its own jobs, to run a job and to wait for it. -/
  | execute
  | submit (actions : List Action)
  | shutdown
  | isCoordinationThread

def NodeRef.resolve (l : Ledger) : NodeRef → Option NodeId
  | .member address => l.table.member? address
  | .kept name => l.bookmarks.get? name

def noSuchNode : Json := .text "no such node"

def snapshotJson (t : NodeTable) (id : NodeId) : Json :=
  .option Descriptor.snapshot (t.descriptor? id)

/-- The answer to a change as it is reported. For a reconnection, which is not answered, it is
looked up whether the node is reconnecting now. -/
def answerJson (changed : NodeTable) (id : NodeId) : ChangeAnswer → Json
  | .state old => .text old.code
  | .distance old => .text old.code
  | .tokens changed => .bool changed
  | .connections count => .nat count
  | .nothing => .bool ((changed.descriptor? id).any Descriptor.isReconnecting)

def memberTexts (t : NodeTable) : Json :=
  .texts ((Endpoint.sort t.memberAddresses).map Endpoint.text)

namespace Action

def adding (l : Ledger) (address : Endpoint) (keep : Option String) : Json × Ledger :=
  let (id, table) := l.table.addNode address
  (snapshotJson table id, { l with table }.bookmark keep id)

def removing (l : Ledger) (address : Endpoint) (keep : Option String) : Json × Ledger :=
  match l.table.removeNode address with
  | (none, _) => (.null, l)
  | (some id, table) => (.text address.text, { l with table }.bookmark keep id)

def keeping (l : Ledger) (ref : NodeRef) (keep : Option String) : Json × Ledger :=
  match ref.resolve l with
  | none => (noSuchNode, l)
  | some id => (snapshotJson l.table id, l.bookmark keep id)

def changing (l : Ledger) (ref : NodeRef) (c : Change) : Json × Ledger :=
  match ref.resolve l with
  | none => (noSuchNode, l)
  | some id =>
    match l.table.update id c with
    | (none, _) => (noSuchNode, l)
    | (some answer, table) => (answerJson table id answer, { l with table })

def noting (line : String) (l : Ledger) : Json × Ledger := (.null, l.note line)

def listing (l : Ledger) : Json × Ledger := (memberTexts l.table, l)

def onLedger (f : Ledger → Json × Ledger) (next : Json → AdminJob) : AdminJob :=
  .work (fun l => (f l).2) fun l => next (f l).1

/-- The end of a job that nobody waits for: its answers are noted. -/
def note (answers : List Json) : AdminJob :=
  onLedger (noting ("job " ++ (Json.list answers).sorted.compact false)) fun _ => .done answers

mutual
/-- One action, and then what is made of its answer. -/
def act (action : Action) (next : Json → AdminJob) : AdminJob :=
  match action with
  | .addNode address keep => onLedger (adding · address keep) next
  | .removeNode address keep => onLedger (removing · address keep) next
  | .node ref keep => onLedger (keeping · ref keep) next
  | .nodes => onLedger listing next
  | .change ref c => onLedger (changing · ref c) next
  | .log line => onLedger (noting line) next
  | .panic => .panic
  | .execute => .execute (.done []) fun r => next (resultJson (fun _ => .null) r)
  | .submit actions =>
    .submit (job note [] actions) fun r => next (resultJson (fun _ => .null) r)
  | .shutdown => .close (.isRunning fun running => next (.bool running))
  | .isCoordinationThread => next (.list [.bool true, .text adminThread])
termination_by structural action

/-- The actions in order, and then what is made of their answers. -/
def job (finish : List Json → AdminJob) (answers : List Json) (actions : List Action) : AdminJob :=
  match actions with
  | [] => finish answers
  | action :: rest => action.act fun answer => job finish (answers ++ [answer]) rest
termination_by structural actions
end

def answered (actions : List Action) : AdminJob := job .done [] actions

def noted (actions : List Action) : AdminJob := job note [] actions

end Action

/-- How a session hands a job to the task. -/
inductive JobMode where
  | execute
  | reply
  | submit
  deriving DecidableEq, Repr

namespace JobMode

def call (actions : List Action) : JobMode → Call Ledger (List Json)
  | .execute => .execute (Action.answered actions)
  | .reply => .await (Action.answered actions)
  | .submit => .submit (Action.noted actions)

def replyJson (mode : JobMode) : Option (Except AccessError (Reply (List Json))) → Json
  | none => .null
  | some (.error e) => e.toJson
  | some (.ok .accepted) => .object [("ok", .null)]
  | some (.ok .dropped) => .text "dropped"
  | some (.ok (.answer answers)) =>
    .object [(if mode = .reply then "reply" else "ok", .list answers)]

end JobMode
end ClusterDriver.Scenario
