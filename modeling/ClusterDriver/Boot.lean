import ClusterDriver.Context.Basic
import ClusterDriver.Cluster.ContactPoints
import ClusterDriver.Settings.Environment
/-!
# Boot

A whole run of the driver: settings from the environment, every component built, contact points
registered and given their distances, and the target of the control channel found. The report holds
the lines of the log, the exit code and what goes to standard error.
-/
namespace ClusterDriver.Boot

structure Report where
  exit : Nat
  log : List String
  errors : String
  deriving DecidableEq, Repr

/-- A failed start: what was being done, and the error. -/
structure Fault where
  doing : Option String
  error : AccessError
  deriving DecidableEq, Repr

def indented (s : String) : String :=
  String.join (s.toList.map fun c => if c = '\n' then "\n    " else c.toString)

def Fault.text (f : Fault) : String :=
  match f.doing with
  | none => "Error: " ++ f.error.message ++ "\n"
  | some doing =>
    "Error: " ++ doing ++ "\n\nCaused by:\n    " ++ indented f.error.message ++ "\n"

def mainThread : String := "main"

/-- Contact points as they are set, or the local host. -/
def effective : List Endpoint → List Endpoint
  | [] => [.v4 .loopback ContactPoints.defaultPort]
  | points => points

def require (c : Context) (id : ComponentId) : Except Fault (id.Value × Context) :=
  match c.get mainThread id with
  | (.value value, c) => .ok (value, c)
  | (.error e, _) => .error ⟨none, e⟩
  | (_, _) => .error ⟨none, .panicked id.name⟩

def initAll (c : Context) : Except Fault Context :=
  match c.call mainThread Context.initAll with
  | (some (.returned (.ok _)), c) => .ok c
  | (some (.returned (.error failure)), _) =>
    .error ⟨some "driver context failed to initialize", failure.attributedTo "driver"⟩
  | (_, _) => .error ⟨some "driver context failed to initialize", .panicked "driver"⟩

/-- A start with its log so far. -/
structure Start where
  log : List String
  outcome : Except Fault Context

def pointLine (d : Descriptor) : String := "[Runtime] Contact point " ++ d.snapshot.compact false

def targetLine (s : ChannelSettings) : String :=
  "[Runtime] Control channel target " ++ s.address.text ++
    " (protocol " ++ s.protocolVersion.name ++ ")"

/-- The nodes of the contact points, with the lines that show them. -/
def register (c : Context) (points : List Endpoint) :
    Except Fault (List String × Context) := do
  let (manager, c) ← require c .metadataManager
  match c.addContactPoints mainThread manager points with
  | (.error e, _) => .error ⟨some "registering contact points", e⟩
  | (.ok ids, c) =>
    return (ids.filterMap fun id => ((c.table manager).descriptor? id).map pointLine, c)

def connect (order : List Endpoint → List Endpoint) (c : Context) :
    Except Fault (List String × Context) := do
  let (balancer, c) ← require c .balancer
  match c.initDistances mainThread balancer order with
  | (.error e, _) => .error ⟨none, e⟩
  | (.ok _, c) =>
    let (control, c) ← require c .controlConnection
    return (((c.nextChannel control).map targetLine).toList, c)

/-- Everything up to the point where the driver says that it is running. -/
def start (order : List Endpoint → List Endpoint) (s : Settings) : Start :=
  match ContactPoints.ofSettings s with
  | .error e => ⟨[], .error ⟨none, e⟩⟩
  | .ok configured =>
    let notice := if configured.isEmpty then
        ["[Runtime] No contact points configured, using 127.0.0.1:9042"] else []
    match initAll (.ofSettings s) with
    | .error f => ⟨notice, .error f⟩
    | .ok c =>
      match register c (effective configured) with
      | .error f => ⟨notice, .error f⟩
      | .ok (points, c) =>
        match connect order c with
        | .error f => ⟨notice ++ points, .error f⟩
        | .ok (target, c) => ⟨notice ++ points ++ target, .ok c⟩

def banner : List String :=
  [Context.rule, "  Cluster Driver Runtime v0.1.0", Context.rule]

def runningLine : String := "Driver is running. Press Ctrl+C to stop."

def farewell : List String := ["Shutting down...", "Driver stopped"]

/-- The report of a run that is interrupted once the driver is running. -/
def run (env : Environment) : Report :=
  let started := start Endpoint.sort env.settings
  match started.outcome with
  | .error fault => { exit := 1, log := banner ++ started.log, errors := fault.text }
  | .ok _ =>
    { exit := 0, log := banner ++ started.log ++ [runningLine] ++ farewell, errors := "" }

end ClusterDriver.Boot
